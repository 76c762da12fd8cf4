import StatusRouter.Proofs.Routing.Run

/-!
# Records tell the history of the edits

What an index has recorded of a subordinate is told by the edits of its run: by the last one that
concerns the subordinate, which either updated it or deleted it (`owners_reviseAll_of_last_update`
and `owners_reviseAll_of_no_update`).  What the queue accepts and what its receiver does have no say.

The gauge is set by the edits that revise a record, and the others leave both the records and the
gauge, so the gauge is always the number of records.
-/

namespace StatusRouter.Index

variable {ownerKind : OwnerKind} {ownership : Ownership} {key : ResourceId}

theorem Edit.ne_of_not_concerns {edit : Edit} {revision : Revision} (h : ¬ edit.Concerns key)
    (hrevision : edit.revision? ownerKind = some revision) : key ≠ revision.subordinate := by
  rintro rfl
  cases edit with
  | updating resource => exact h (Subordinate.revision?_eq_some_iff.mp hrevision).1
  | deleting kind subordinate =>
      obtain rfl := Option.some.inj hrevision
      exact h rfl

theorem owners_reviseAll_of_not_concerns {edits : List Edit}
    (h : ∀ edit ∈ edits, ¬ edit.Concerns key) :
    (ownership.reviseAll (edits.filterMap (Edit.revision? ownerKind))).owners key =
      ownership.owners key := by
  refine Ownership.owners_reviseAll_of_forall_ne fun revision hrevision => ?_
  obtain ⟨edit, hedit, hsome⟩ := List.mem_filterMap.mp hrevision
  exact Edit.ne_of_not_concerns (h edit hedit) hsome

/-- A subordinate has the owners of its last update, if nothing concerns it afterwards. -/
theorem owners_reviseAll_of_last_update {earlier later : List Edit} {resource : Subordinate}
    (hkey : resource.key = .ok key) (hlater : ∀ edit ∈ later, ¬ edit.Concerns key) :
    (ownership.reviseAll ((earlier ++ .updating resource :: later).filterMap
      (Edit.revision? ownerKind))).owners key = ownerKind.route resource := by
  have hrevision : Edit.revision? ownerKind (.updating resource) =
      some ⟨key, ownerKind.route resource⟩ :=
    Subordinate.revision?_eq_some_iff.mpr ⟨hkey, rfl⟩
  rw [List.filterMap_append, List.filterMap_cons_some hrevision, Ownership.reviseAll_append,
    Ownership.reviseAll_cons, owners_reviseAll_of_not_concerns hlater, Ownership.owners_revise,
    if_pos rfl]

/-- A subordinate has no owners if each of its updates was followed by a deletion. -/
theorem owners_reviseAll_of_no_update {edits : List Edit}
    (h : ∀ earlier resource later, edits = earlier ++ .updating resource :: later →
      resource.key = .ok key → ∃ kind, .deleting kind key ∈ later) :
    (Ownership.empty.reviseAll (edits.filterMap (Edit.revision? ownerKind))).owners key = [] := by
  induction edits using List.reverseRecOn with
  | nil => rfl
  | append_singleton edits last ih =>
      rw [List.filterMap_append, Ownership.reviseAll_append]
      by_cases hlast : last.Concerns key
      · cases last with
        | updating resource =>
            -- nothing is left that could have deleted it
            obtain ⟨kind, hkind⟩ := h edits resource [] rfl hlast
            simp at hkind
        | deleting kind subordinate =>
            obtain rfl : subordinate = key := hlast
            simp [Edit.revision?, Ownership.owners_revise, Revision.forgetting]
      · rw [owners_reviseAll_of_not_concerns (by simpa using hlast)]
        refine ih fun earlier resource later hsplit hkey => ?_
        obtain ⟨kind, hkind⟩ := h earlier resource (later ++ [last]) (by simp [hsplit]) hkey
        rcases List.mem_append.mp hkind with hmem | hfinal
        · exact ⟨kind, hmem⟩
        · obtain rfl := List.mem_singleton.mp hfinal
          exact absurd rfl hlast

/-- The records are those of the edits, and the gauge is their number. -/
structure Records (ownerKind : OwnerKind) (edits : List Edit) (index : Index) : Prop where
  kind : index.ownerKind = ownerKind
  ownership : index.ownership =
    Ownership.empty.reviseAll (edits.filterMap (Edit.revision? ownerKind))
  size : index.metrics.size = index.size

/-- Each operation revises the records as its edits say, and the receiver does not touch them. -/
theorem Records.next {edits : List Edit} {trace : Trace} (h : Records ownerKind edits trace.index)
    (action : Action) :
    Records ownerKind (edits ++ action.edits) (trace.next action).index := by
  cases action with
  | performing operation =>
      have hedited := trace.index.edited_perform operation
      rw [h.kind] at hedited
      exact
        { kind := hedited.ownerKind.trans h.kind
          ownership := by
            rw [List.filterMap_append, Ownership.reviseAll_append, ← h.ownership]
            exact hedited.ownership
          size := hedited.gauge h.size }
  | receiving =>
      rw [Action.edits, List.append_nil]
      exact ⟨h.kind, h.ownership, h.size⟩
  | closing =>
      rw [Action.edits, List.append_nil]
      exact ⟨h.kind, h.ownership, h.size⟩

theorem records_run (ownerKind : OwnerKind) (queue : WorkQueue) (actions : List Action) :
    Records ownerKind (actions.flatMap Action.edits)
      ((Index.of ownerKind queue).run actions).index := by
  induction actions using List.reverseRecOn with
  | nil => exact ⟨rfl, rfl, rfl⟩
  | append_singleton actions action ih =>
      rw [run_append_singleton, List.flatMap_append, List.flatMap_singleton]
      exact ih.next action

/-- In every run of a new index, whatever its queue accepts and its receiver does, the owners that are
recorded under a key are those of the resource that was last updated under it, unless it was deleted
since, and then there are none.  The keys with a record are those with owners, so the size is their
number and the index is empty if there are none; and the gauge shows the size. -/
theorem recorded_of_run (ownerKind : OwnerKind) (queue : WorkQueue) (actions : List Action) :
    let index := ((Index.of ownerKind queue).run actions).index
    let edits := actions.flatMap Action.edits
    (∀ key earlier resource later, edits = earlier ++ .updating resource :: later →
      resource.key = .ok key → (∀ edit ∈ later, ¬ edit.Concerns key) →
        index.owners key = ownerKind.route resource) ∧
    (∀ key, (∀ earlier resource later, edits = earlier ++ .updating resource :: later →
        resource.key = .ok key → ∃ kind, .deleting kind key ∈ later) →
      index.owners key = []) ∧
    (∀ key, key ∈ index.ownership.records.map Prod.fst ↔ index.owners key ≠ []) ∧
    index.size = {key | index.owners key ≠ []}.ncard ∧
    (index.isEmpty = true ↔ ∀ key, index.owners key = []) ∧
    index.metrics.size = index.size := by
  intro index edits
  have hrecords : Records ownerKind edits index := records_run ownerKind queue actions
  refine ⟨?_, ?_, fun key => Ownership.mem_map_fst_records, index.ownership.size_eq_ncard, ?_,
    hrecords.size⟩
  · intro key earlier resource later hsplit hkey hlater
    rw [owners, hrecords.ownership, hsplit]
    exact owners_reviseAll_of_last_update hkey hlater
  · intro key hdeleted
    rw [owners, hrecords.ownership]
    exact owners_reviseAll_of_no_update hdeleted
  · rw [isEmpty, beq_iff_eq, size, Ownership.size, List.length_eq_zero_iff,
      ← List.map_eq_nil_iff (f := Prod.fst), List.eq_nil_iff_forall_not_mem]
    exact forall_congr' fun key => Ownership.mem_map_fst_records.not.trans not_not

/-- Two groups are updated, the second one while the queue is full.  A listing changes the owner of
the first group, leaves out the second, and has one without a namespace.  Then the receiver goes away,
and a key without a record is deleted. -/
theorem recorded_of_run_of_relisting :
    let group (name : String) (owners : List Owner) : Subordinate :=
      ⟨"ConsumerGroup", some "ns", some name, none, owners⟩
    let ignored : Subordinate := ⟨"ConsumerGroup", none, some "adrift", none, []⟩
    let actions : List Action :=
      [.performing (.applying (group "kept" [⟨"KafkaSource", "a"⟩])),
        .performing (.applying (group "gone" [⟨"KafkaSource", "b"⟩])), .receiving,
        .performing (.resetting "ConsumerGroup" [group "kept" [⟨"KafkaSource", "c"⟩], ignored]
          [⟨"ns", "gone"⟩]),
        .closing, .performing (.deleting "ConsumerGroup" ⟨"ns", "unknown"⟩)]
    let index := ((Index.of (.ofKind "KafkaSource") ⟨some 1, [], false⟩).run actions).index
    index.owners ⟨"ns", "kept"⟩ = [⟨"ns", "c"⟩] ∧ index.owners ⟨"ns", "gone"⟩ = [] ∧
      index.size = 1 ∧ {key | index.owners key ≠ []}.ncard = 1 := by
  intro group ignored actions index
  obtain ⟨hupdated, hdeleted, -, hncard, -, -⟩ :=
    recorded_of_run (.ofKind "KafkaSource") ⟨some 1, [], false⟩ actions
  have hsize : index.size = 1 := by decide +kernel
  refine ⟨?_, ?_, hsize, hncard.symm.trans hsize⟩
  · rw [hupdated ⟨"ns", "kept"⟩ [.updating (group "kept" [⟨"KafkaSource", "a"⟩]),
        .updating (group "gone" [⟨"KafkaSource", "b"⟩])] (group "kept" [⟨"KafkaSource", "c"⟩])
      [.updating ignored, .deleting "ConsumerGroup" ⟨"ns", "gone"⟩,
        .deleting "ConsumerGroup" ⟨"ns", "unknown"⟩] rfl rfl
      (by simp [Edit.Concerns, Subordinate.key, ignored])]
    decide +kernel
  · refine hdeleted ⟨"ns", "gone"⟩ fun earlier resource later hsplit hkey => ?_
    -- the deletion comes after all updates of the row
    have hedits : actions.flatMap Action.edits =
        [group "kept" [⟨"KafkaSource", "a"⟩], group "gone" [⟨"KafkaSource", "b"⟩],
          group "kept" [⟨"KafkaSource", "c"⟩], ignored].map .updating ++
        [⟨"ns", "gone"⟩, ⟨"ns", "unknown"⟩].map (.deleting "ConsumerGroup") := rfl
    rw [hedits] at hsplit
    rcases List.append_eq_append_iff.mp hsplit with ⟨front, -, hdeletions⟩ | ⟨back, -, hlater⟩
    · have hmem : Edit.updating resource ∈ front ++ .updating resource :: later := by simp
      rw [← hdeletions] at hmem
      simp at hmem
    · cases back with
      | nil => simp at hlater
      | cons first back =>
          rw [List.cons_append, List.cons.injEq] at hlater
          exact ⟨"ConsumerGroup", by simp [hlater.2]⟩

end StatusRouter.Index
