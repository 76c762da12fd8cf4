import StatusRouter.Proofs.Routing.Offer
import StatusRouter.Proofs.Routing.Revision
import StatusRouter.Routing.Watch

/-!
# Operations as revisions

An index takes in an update, a deletion, or a new listing.  Each of them comes to a list of revisions
of the records: one for each update, with the owners that the resource is routed to, and one without
owners for each deletion.  The list depends only on the operation and on the kind of owners, not on
the records or the queue.

`revises_perform` says that an operation whose resources have keys does what its revisions say: it
is not broken off, the records are revised, and of the keys that the revisions offer the queue
accepts the first ones, as many as fit, each of them counted, while the others are counted as
dropped and reported.
-/

namespace StatusRouter

namespace Subordinate

theorem key_eq_ok_iff {resource : Subordinate} {id : ResourceId} :
    resource.key = .ok id ↔
      resource.namespace = some id.namespace ∧ resource.name = some id.name := by
  obtain ⟨ns, name⟩ := id
  unfold key
  cases resource.namespace <;> cases resource.name <;> simp

/-- The revision that an update of a resource comes to, if the resource has a key. -/
def revision? (ownerKind : OwnerKind) (resource : Subordinate) : Option Revision :=
  match resource.key with
  | .ok id => some ⟨id, ownerKind.route resource⟩
  | .error _ => none

theorem revision?_eq_some_iff {ownerKind : OwnerKind} {resource : Subordinate}
    {revision : Revision} :
    resource.revision? ownerKind = some revision ↔
      resource.key = .ok revision.subordinate ∧ ownerKind.route resource = revision.owners := by
  obtain ⟨subordinate, owners⟩ := revision
  unfold revision?
  cases resource.key <;> simp

end Subordinate

namespace Index

/-- What an index takes in. -/
inductive Operation where
  | applying (resource : Subordinate)
  | deleting (kind : String) (subordinate : ResourceId)
  | resetting (kind : String) (resources : List Subordinate) (removed : List ResourceId)
  deriving DecidableEq

namespace Operation

/-- The resources that an operation applies. -/
def applied : Operation → List Subordinate
  | .applying resource => [resource]
  | .deleting _ _ => []
  | .resetting _ resources _ => resources

/-- The keys of the subordinates that an operation removes. -/
def removed : Operation → List ResourceId
  | .applying _ => []
  | .deleting _ subordinate => [subordinate]
  | .resetting _ _ removed => removed

/-- All resources that an operation applies have keys. -/
def Keyed (operation : Operation) : Prop :=
  ∀ resource ∈ operation.applied, ∃ id, resource.key = .ok id

/-- The revisions that an operation comes to. -/
def revisions (ownerKind : OwnerKind) (operation : Operation) : List Revision :=
  operation.applied.filterMap (Subordinate.revision? ownerKind) ++
    (distinct operation.removed).map .forgetting

theorem mem_revisions {ownerKind : OwnerKind} {operation : Operation} {revision : Revision} :
    revision ∈ operation.revisions ownerKind ↔
      (∃ resource ∈ operation.applied, resource.revision? ownerKind = some revision) ∨
        ∃ id ∈ operation.removed, .forgetting id = revision := by
  simp [revisions]

end Operation

/-- Performs an operation. -/
def perform (index : Index) : Operation → IndexStep
  | .applying resource => index.apply resource
  | .deleting kind subordinate => index.delete kind subordinate
  | .resetting kind resources removed => index.reset kind resources removed

end Index

/-- A step that comes through, revises the records and offers the keys that the revisions offer. -/
structure IndexStep.Revises (step : IndexStep) (before : Index) (revisions : List Revision) :
    Prop where
  fault : step.fault = none
  ownerKind : step.index.ownerKind = before.ownerKind
  ownership : step.index.ownership = before.ownership.reviseAll revisions
  /-- The keys that fit are in the queue. -/
  queue : step.index.queue = before.queue.extended (before.ownership.offersAll revisions)
  enqueued : step.index.metrics.enqueued = before.metrics.enqueued.raiseBy before.ownerKind.text
    (before.queue.admitted (before.ownership.offersAll revisions)).length
  dropped : step.index.metrics.dropped = before.metrics.dropped.raiseBy before.ownerKind.text
    (before.queue.refusals (before.ownership.offersAll revisions)).length
  /-- The keys that do not fit are reported. -/
  events : step.events =
    (before.queue.refusals (before.ownership.offersAll revisions)).map Index.dropped

section

variable {index : Index} {revisions later : List Revision}

theorem IndexStep.Revises.owners {step : IndexStep} (h : step.Revises index revisions)
    (key : ResourceId) :
    step.index.owners key = (index.ownership.reviseAll revisions).owners key := by
  rw [Index.owners, h.ownership]

/-- Steps that follow each other make the revisions of both. -/
theorem IndexStep.Revises.andThen {step : IndexStep} {next : Index → IndexStep}
    (h : step.Revises index revisions) (hnext : (next step.index).Revises step.index later) :
    (step.andThen next).Revises index (revisions ++ later) := by
  have hstep : step.andThen next =
      { next step.index with events := step.events ++ (next step.index).events } := by
    rw [IndexStep.andThen, h.fault]
  rw [hstep]
  exact
    { fault := hnext.fault
      ownerKind := hnext.ownerKind.trans h.ownerKind
      ownership := by rw [hnext.ownership, h.ownership, Ownership.reviseAll_append]
      queue := by
        rw [hnext.queue, h.queue, h.ownership, Ownership.offersAll_append,
          WorkQueue.extended_append]
      enqueued := by
        rw [hnext.enqueued, h.enqueued, h.ownerKind, h.queue, h.ownership,
          Ownership.offersAll_append, WorkQueue.admitted_append, List.length_append,
          CounterFamily.raiseBy_add]
      dropped := by
        rw [hnext.dropped, h.dropped, h.ownerKind, h.queue, h.ownership,
          Ownership.offersAll_append, WorkQueue.refusals_append, List.length_append,
          CounterFamily.raiseBy_add]
      events := by
        rw [hnext.events, h.events, h.queue, h.ownership, Ownership.offersAll_append,
          WorkQueue.refusals_append, List.map_append] }

end

namespace Index

variable {index : Index}

theorem revises_nil : IndexStep.Revises ⟨index, [], none⟩ index [] where
  fault := rfl
  ownerKind := rfl
  ownership := rfl
  queue := by simp [Ownership.offersAll]
  enqueued := by simp [Ownership.offersAll, CounterFamily.raiseBy]
  dropped := by simp [Ownership.offersAll, CounterFamily.raiseBy]
  events := by simp [Ownership.offersAll]

theorem revises_apply {resource : Subordinate} {id : ResourceId} (hkey : resource.key = .ok id) :
    (index.apply resource).Revises index [⟨id, index.ownerKind.route resource⟩] := by
  obtain ⟨hnamespace, hname⟩ := Subordinate.key_eq_ok_iff.mp hkey
  have happly : index.apply resource =
      ({ index with metrics := index.metrics.applied resource.kind } : Index).record id
        (index.ownerKind.route resource) := by
    rw [apply, hnamespace, hname]
  rw [happly, record, offerAll_eq]
  exact
    { fault := rfl
      ownerKind := rfl
      ownership := rfl
      queue := by rw [Ownership.offersAll_singleton]; rfl
      enqueued := by rw [Ownership.offersAll_singleton]; rfl
      dropped := by rw [Ownership.offersAll_singleton]; rfl
      events := by rw [Ownership.offersAll_singleton]; rfl }

theorem revises_delete (kind : String) (subordinate : ResourceId) :
    (index.delete kind subordinate).Revises index [.forgetting subordinate] := by
  rw [delete, offerAll_eq]
  exact
    { fault := rfl
      ownerKind := rfl
      ownership := rfl
      queue := by rw [Ownership.offersAll_singleton, Ownership.offers_forgetting]; rfl
      enqueued := by rw [Ownership.offersAll_singleton, Ownership.offers_forgetting]; rfl
      dropped := by rw [Ownership.offersAll_singleton, Ownership.offers_forgetting]; rfl
      events := by rw [Ownership.offersAll_singleton, Ownership.offers_forgetting]; rfl }

theorem revises_sequence_delete (kind : String) (ids : List ResourceId) :
    (index.sequence (ids.map fun id index => index.delete kind id)).Revises index
      (ids.map .forgetting) := by
  induction ids generalizing index with
  | nil => exact revises_nil
  | cons id ids ih => exact (revises_delete kind id).andThen ih

/-- A new listing of resources that have keys is a revision for each resource, and then one without
owners for each key that is removed. -/
theorem revises_reset {ownerKind : OwnerKind} (hownerKind : index.ownerKind = ownerKind)
    (kind : String) {resources : List Subordinate}
    (hkeyed : ∀ resource ∈ resources, ∃ id, resource.key = .ok id) (removed : List ResourceId) :
    (index.reset kind resources removed).Revises index
      (resources.filterMap (Subordinate.revision? ownerKind) ++
        (distinct removed).map .forgetting) := by
  unfold reset
  induction resources generalizing index with
  | nil => exact revises_sequence_delete kind (distinct removed)
  | cons resource resources ih =>
      obtain ⟨⟨id, hkey⟩, hrest⟩ := List.forall_mem_cons.mp hkeyed
      have hrevision : resource.revision? ownerKind =
          some ⟨id, index.ownerKind.route resource⟩ := by
        rw [Subordinate.revision?, hkey, hownerKind]
      have hfirst : (index.apply resource).Revises index [⟨id, index.ownerKind.route resource⟩] :=
        revises_apply hkey
      rw [List.filterMap_cons_some hrevision]
      exact hfirst.andThen (ih (hfirst.ownerKind.trans hownerKind) hrest)

/-- An operation whose resources have keys makes the revisions that it comes to. -/
theorem revises_perform (index : Index) {operation : Operation} (hkeyed : operation.Keyed) :
    (index.perform operation).Revises index (operation.revisions index.ownerKind) := by
  cases operation with
  | applying resource =>
      obtain ⟨id, hkey⟩ := hkeyed resource (List.mem_singleton.mpr rfl)
      have hrevisions : (Operation.applying resource).revisions index.ownerKind =
          [⟨id, index.ownerKind.route resource⟩] := by
        simp [Operation.revisions, Operation.applied, Operation.removed, Subordinate.revision?,
          hkey, distinct]
      rw [hrevisions]
      exact revises_apply hkey
  | deleting kind subordinate => exact revises_delete kind subordinate
  | resetting kind resources removed => exact revises_reset rfl kind hkeyed removed

end Index

end StatusRouter
