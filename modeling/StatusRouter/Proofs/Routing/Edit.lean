import StatusRouter.Proofs.Routing.Operation

/-!
# Operations as rows of edits

An operation is a row of edits, and an edit is one update or one deletion.  An edit that cannot be
carried out, which is an update of a resource that has a namespace and no name, breaks the operation
off, so it is the last one of its row (`perform_eq_editAll`).

An edit either revises one record, or else it counts an update and does nothing more.  `Edited` says
what comes of the revisions, and `edited_perform` that it comes of every operation, broken off or not.
-/

namespace StatusRouter

/-- The event names an owner. -/
def LogEvent.namesOwner (event : LogEvent) : Bool :=
  event.fields.any fun field => field.1 = "owner"

namespace Index

/-- One update or one deletion. -/
inductive Edit where
  | updating (resource : Subordinate)
  | deleting (kind : String) (subordinate : ResourceId)
  deriving DecidableEq

namespace Edit

/-- Performs an edit. -/
def perform (index : Index) : Edit → IndexStep
  | .updating resource => index.apply resource
  | .deleting kind subordinate => index.delete kind subordinate

/-- Whether the edit cannot be carried out. -/
def breaksOff : Edit → Bool
  | .updating resource => resource.namespace.isSome && resource.name.isNone
  | .deleting _ _ => false

/-- The edit has a say in the record of a subordinate. -/
def Concerns (key : ResourceId) : Edit → Prop
  | .updating resource => resource.key = .ok key
  | .deleting _ subordinate => subordinate = key

/-- The revision that an edit comes to, unless it leaves the records alone. -/
def revision? (ownerKind : OwnerKind) : Edit → Option Revision
  | .updating resource => resource.revision? ownerKind
  | .deleting _ subordinate => some (.forgetting subordinate)

/-- The first edits of a row, up to the one that cannot be carried out. -/
def carriedOut : List Edit → List Edit
  | [] => []
  | edit :: rest => if edit.breaksOff then [edit] else edit :: carriedOut rest

end Edit

namespace Operation

/-- The edits that an operation makes. -/
def edits : Operation → List Edit
  | .applying resource => [.updating resource]
  | .deleting kind subordinate => [.deleting kind subordinate]
  | .resetting kind resources removed =>
    Edit.carriedOut (resources.map .updating ++ (distinct removed).map (.deleting kind))

/-- The keys that an operation offers, in order. -/
def offered (index : Index) (operation : Operation) : List ResourceId :=
  index.ownership.offersAll (operation.edits.filterMap (Edit.revision? index.ownerKind))

end Operation

/-- Makes edits one after another; also what was reported. -/
def editAll (index : Index) : List Edit → Index × List LogEvent
  | [] => (index, [])
  | edit :: rest =>
    let step := edit.perform index
    let (index, events) := step.index.editAll rest
    (index, step.events ++ events)

/-- The index after revisions, and what was reported of them: the records are revised, and the keys
that the revisions offer are in the queue and counted, or counted as dropped and reported. -/
structure Edited (before : Index) (revisions : List Revision) (after : Index)
    (events : List LogEvent) : Prop where
  ownerKind : after.ownerKind = before.ownerKind
  ownership : after.ownership = before.ownership.reviseAll revisions
  queue : after.queue = before.queue.extended (before.ownership.offersAll revisions)
  enqueued : after.metrics.enqueued = before.metrics.enqueued.raiseBy before.ownerKind.text
    (before.queue.admitted (before.ownership.offersAll revisions)).length
  dropped : after.metrics.dropped = before.metrics.dropped.raiseBy before.ownerKind.text
    (before.queue.refusals (before.ownership.offersAll revisions)).length
  reported : events.filter LogEvent.namesOwner =
    (before.queue.refusals (before.ownership.offersAll revisions)).map Index.dropped
  /-- All else that was reported is that resources were ignored. -/
  unnamed : ∀ event ∈ events, event.namesOwner = false → ∃ resource, event = Index.ignoring resource
  /-- The gauge keeps showing the number of records. -/
  gauge : before.metrics.size = before.size → after.metrics.size = after.size

variable {index : Index} {edit : Edit} {resource : Subordinate}

theorem namesOwner_dropped (refusal : Refusal) : (dropped refusal).namesOwner = true := by
  cases refusal <;> rfl

theorem namesOwner_ignoring (resource : Subordinate) :
    (ignoring resource).namesOwner = false := rfl

/-- No revision is made where no more than the count of updates changes. -/
theorem edited_nil (applies : CounterFamily) {events : List LogEvent}
    (hevents : ∀ event ∈ events, ∃ resource, event = Index.ignoring resource) :
    Edited index [] { index with metrics := { index.metrics with applies } } events where
  ownerKind := rfl
  ownership := rfl
  queue := by simp [Ownership.offersAll]
  enqueued := by simp [Ownership.offersAll, CounterFamily.raiseBy]
  dropped := by simp [Ownership.offersAll, CounterFamily.raiseBy]
  reported := by
    have hnone : events.filter LogEvent.namesOwner = [] := by
      refine List.filter_eq_nil_iff.mpr fun event hevent => ?_
      obtain ⟨resource, rfl⟩ := hevents event hevent
      simp [namesOwner_ignoring]
    simp [Ownership.offersAll, hnone]
  unnamed := fun event hevent _ => hevents event hevent
  gauge := fun hgauge => hgauge

/-- Revisions that follow each other. -/
theorem Edited.append {revisions later : List Revision} {middle after : Index}
    {events others : List LogEvent} (h : Edited index revisions middle events)
    (hlater : Edited middle later after others) :
    Edited index (revisions ++ later) after (events ++ others) where
  ownerKind := hlater.ownerKind.trans h.ownerKind
  ownership := by rw [hlater.ownership, h.ownership, Ownership.reviseAll_append]
  queue := by
    rw [hlater.queue, h.queue, h.ownership, Ownership.offersAll_append, WorkQueue.extended_append]
  enqueued := by
    rw [hlater.enqueued, h.enqueued, h.ownerKind, h.queue, h.ownership, Ownership.offersAll_append,
      WorkQueue.admitted_append, List.length_append, CounterFamily.raiseBy_add]
  dropped := by
    rw [hlater.dropped, h.dropped, h.ownerKind, h.queue, h.ownership, Ownership.offersAll_append,
      WorkQueue.refusals_append, List.length_append, CounterFamily.raiseBy_add]
  reported := by
    rw [List.filter_append, hlater.reported, h.reported, h.queue, h.ownership,
      Ownership.offersAll_append, WorkQueue.refusals_append, List.map_append]
  unnamed := fun event hevent =>
    (List.mem_append.mp hevent).elim (h.unnamed event) (hlater.unnamed event)
  gauge := fun hgauge => hlater.gauge (h.gauge hgauge)

/-! ## Single edits -/

theorem apply_of_noNamespace (h : resource.namespace = none) :
    index.apply resource =
      ⟨{ index with metrics := index.metrics.applied resource.kind }, [ignoring resource], none⟩ := by
  rw [apply, h]

theorem apply_of_noName {ns : String} (hnamespace : resource.namespace = some ns)
    (hname : resource.name = none) :
    index.apply resource =
      ⟨{ index with metrics := index.metrics.applied resource.kind }, [], some .noName⟩ := by
  rw [apply, hnamespace, hname]

theorem Edit.revises_perform {revision : Revision}
    (h : edit.revision? index.ownerKind = some revision) :
    (edit.perform index).Revises index [revision] := by
  cases edit with
  | updating resource =>
      obtain ⟨hkey, howners⟩ := Subordinate.revision?_eq_some_iff.mp h
      obtain ⟨subordinate, owners⟩ := revision
      obtain rfl : index.ownerKind.route resource = owners := howners
      exact revises_apply hkey
  | deleting kind subordinate =>
      obtain rfl := Option.some.inj h
      exact revises_delete kind subordinate

/-- An edit that comes to no revision counts an update of a kind, and reports no more than that the
resource was ignored. -/
theorem Edit.perform_of_revision?_eq_none (h : edit.revision? index.ownerKind = none) :
    (∃ kind, (edit.perform index).index =
      { index with metrics := index.metrics.applied kind }) ∧
      ∀ event ∈ (edit.perform index).events, ∃ resource, event = ignoring resource := by
  cases edit with
  | updating resource =>
      rw [Edit.perform]
      cases hnamespace : resource.namespace with
      | none =>
          rw [apply_of_noNamespace hnamespace]
          exact ⟨⟨resource.kind, rfl⟩, fun event hevent => ⟨resource, List.mem_singleton.mp hevent⟩⟩
      | some ns =>
          cases hname : resource.name with
          | none =>
              rw [apply_of_noName hnamespace hname]
              exact ⟨⟨resource.kind, rfl⟩, by simp⟩
          | some name =>
              simp [Edit.revision?, Subordinate.revision?, Subordinate.key, hnamespace, hname] at h
  | deleting kind subordinate => simp [Edit.revision?] at h

theorem Edit.size_perform {revision : Revision}
    (h : edit.revision? index.ownerKind = some revision) :
    (edit.perform index).index.metrics.size = (edit.perform index).index.size := by
  cases edit with
  | updating resource =>
      obtain ⟨hkey, -⟩ := Subordinate.revision?_eq_some_iff.mp h
      obtain ⟨hnamespace, hname⟩ := Subordinate.key_eq_ok_iff.mp hkey
      rw [Edit.perform, apply, hnamespace, hname]
      rfl
  | deleting kind subordinate => rfl

/-- An edit makes the revision that it comes to, if there is one. -/
theorem Edit.edited_perform (index : Index) (edit : Edit) :
    Edited index (edit.revision? index.ownerKind).toList (edit.perform index).index
      (edit.perform index).events := by
  cases hrevision : edit.revision? index.ownerKind with
  | none =>
      obtain ⟨⟨kind, hindex⟩, hevents⟩ := Edit.perform_of_revision?_eq_none hrevision
      rw [hindex]
      exact edited_nil _ hevents
  | some revision =>
      have hrevises := Edit.revises_perform hrevision
      have hnamed : ∀ event ∈ (edit.perform index).events, event.namesOwner = true := by
        rw [hrevises.events]
        intro event hevent
        obtain ⟨refusal, -, rfl⟩ := List.mem_map.mp hevent
        exact namesOwner_dropped refusal
      exact
        { ownerKind := hrevises.ownerKind
          ownership := hrevises.ownership
          queue := hrevises.queue
          enqueued := hrevises.enqueued
          dropped := hrevises.dropped
          reported := (List.filter_eq_self.mpr hnamed).trans hrevises.events
          unnamed := fun event hevent hname => absurd (hnamed event hevent) (by simp [hname])
          gauge := fun _ => Edit.size_perform hrevision }

theorem Edit.isSome_fault_perform (index : Index) (edit : Edit) :
    (edit.perform index).fault.isSome = edit.breaksOff := by
  cases edit with
  | updating resource =>
      rw [Edit.perform, Edit.breaksOff]
      cases hnamespace : resource.namespace with
      | none =>
          rw [apply_of_noNamespace hnamespace]
          rfl
      | some ns =>
          cases hname : resource.name with
          | none =>
              rw [apply_of_noName hnamespace hname]
              rfl
          | some name =>
              have hkey : resource.key = .ok ⟨ns, name⟩ :=
                Subordinate.key_eq_ok_iff.mpr ⟨hnamespace, hname⟩
              rw [(revises_apply hkey).fault]
              rfl
  | deleting kind subordinate =>
      have hfault : (index.delete kind subordinate).fault = none :=
        (revises_delete kind subordinate).fault
      rw [Edit.perform, hfault]
      rfl

/-! ## Rows of edits -/

/-- Edits that are carried out until one breaks off are those of a sequence. -/
theorem sequence_eq_editAll (edits : List Edit) :
    ((index.sequence (edits.map fun edit index => edit.perform index)).index,
      (index.sequence (edits.map fun edit index => edit.perform index)).events) =
        index.editAll (Edit.carriedOut edits) := by
  induction edits generalizing index with
  | nil => rfl
  | cons edit rest ih =>
      -- the sequence stops at a fault, and the row at the edit that has one
      have hfault := Edit.isSome_fault_perform index edit
      rw [List.map_cons, sequence, IndexStep.andThen, Edit.carriedOut, ← hfault]
      cases (edit.perform index).fault with
      | some fault => simp [editAll]
      | none => simp [editAll, ← ih]

/-- An operation makes its edits. -/
theorem perform_eq_editAll (index : Index) (operation : Operation) :
    ((index.perform operation).index, (index.perform operation).events) =
      index.editAll operation.edits := by
  cases operation with
  | applying resource => simp [perform, Operation.edits, editAll, Edit.perform]
  | deleting kind subordinate => simp [perform, Operation.edits, editAll, Edit.perform]
  | resetting kind resources removed =>
      rw [Operation.edits, ← sequence_eq_editAll]
      simp [perform, reset, Edit.perform, Function.comp_def]

/-- A row of edits makes the revisions that the edits come to. -/
theorem edited_editAll (index : Index) (edits : List Edit) :
    Edited index (edits.filterMap (Edit.revision? index.ownerKind)) (index.editAll edits).1
      (index.editAll edits).2 := by
  induction edits generalizing index with
  | nil => exact edited_nil index.metrics.applies fun _ hevent => absurd hevent List.not_mem_nil
  | cons edit rest ih =>
      have hfirst := edit.edited_perform index
      have hrest := ih (edit.perform index).index
      rw [hfirst.ownerKind] at hrest
      have hrevisions : (edit :: rest).filterMap (Edit.revision? index.ownerKind) =
          (edit.revision? index.ownerKind).toList ++
            rest.filterMap (Edit.revision? index.ownerKind) := by
        cases hrevision : edit.revision? index.ownerKind <;> simp [hrevision]
      rw [hrevisions]
      exact hfirst.append hrest

theorem edited_perform (index : Index) (operation : Operation) :
    Edited index (operation.edits.filterMap (Edit.revision? index.ownerKind))
      (index.perform operation).index (index.perform operation).events := by
  have hedited := index.edited_editAll operation.edits
  rwa [← perform_eq_editAll] at hedited

end Index

end StatusRouter
