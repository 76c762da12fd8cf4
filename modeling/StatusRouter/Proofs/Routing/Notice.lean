import Mathlib.Data.Set.Basic
import StatusRouter.Proofs.Routing.Operation

/-!
# No change of ownership goes unnoticed

When an operation changes which subordinates an owner has, the key of the owner is offered to the
queue during the operation, and so it is accepted and counted, or refused, counted and reported.
No others are offered but the owners that a resource of the operation refers to, and those that were
recorded for a subordinate that the operation applies or removes.
-/

namespace StatusRouter.Index

/-- The subordinates that an owner has in the records. -/
def subordinatesOf (index : Index) (owner : ResourceId) : Set ResourceId :=
  {subordinate | owner ∈ index.owners subordinate}

theorem mem_subordinatesOf {index : Index} {owner subordinate : ResourceId} :
    subordinate ∈ index.subordinatesOf owner ↔ owner ∈ index.owners subordinate :=
  Iff.rfl

theorem mem_offersAll_revisions {index : Index} {operation : Operation} (hkeyed : operation.Keyed)
    {owner : ResourceId} :
    owner ∈ index.ownership.offersAll (operation.revisions index.ownerKind) ↔
      (∃ resource ∈ operation.applied, owner ∈ index.ownerKind.route resource) ∨
        ∃ id, ((∃ resource ∈ operation.applied, resource.key = .ok id) ∨ id ∈ operation.removed) ∧
          owner ∈ index.owners id := by
  rw [Ownership.mem_offersAll]
  constructor
  · rintro ⟨revision, hrevision, howner⟩
    rcases Operation.mem_revisions.mp hrevision with
      ⟨resource, hresource, hrevises⟩ | ⟨id, hremoved, rfl⟩
    · obtain ⟨hkey, hroute⟩ := Subordinate.revision?_eq_some_iff.mp hrevises
      rcases howner with hgiven | hrecorded
      · exact Or.inl ⟨resource, hresource, hroute ▸ hgiven⟩
      · exact Or.inr ⟨revision.subordinate, Or.inl ⟨resource, hresource, hkey⟩, hrecorded⟩
    · -- a deletion gives no owners
      have hrecorded := howner.resolve_left List.not_mem_nil
      exact Or.inr ⟨id, Or.inr hremoved, hrecorded⟩
  · rintro (⟨resource, hresource, hroute⟩ | ⟨id, ⟨resource, hresource, hkey⟩ | hremoved, hrecorded⟩)
    · obtain ⟨id, hkey⟩ := hkeyed resource hresource
      have hrevises : resource.revision? index.ownerKind =
          some ⟨id, index.ownerKind.route resource⟩ :=
        Subordinate.revision?_eq_some_iff.mpr ⟨hkey, rfl⟩
      exact ⟨_, Operation.mem_revisions.mpr (Or.inl ⟨resource, hresource, hrevises⟩), Or.inl hroute⟩
    · have hrevises : resource.revision? index.ownerKind =
          some ⟨id, index.ownerKind.route resource⟩ :=
        Subordinate.revision?_eq_some_iff.mpr ⟨hkey, rfl⟩
      exact ⟨_, Operation.mem_revisions.mpr (Or.inl ⟨resource, hresource, hrevises⟩),
        Or.inr hrecorded⟩
    · exact ⟨.forgetting id, Operation.mem_revisions.mpr (Or.inr ⟨id, hremoved, rfl⟩),
        Or.inr hrecorded⟩

/-- An operation whose resources have keys comes through.  Every key that it offers is accepted, and
then it is in the queue and counted as enqueued, or refused, and then it is counted as dropped and
reported.  If the operation changes which subordinates an owner has, the key of the owner is
offered.  What is offered are the owners that the applied resources refer to, and those that were
recorded for a subordinate that the operation applies or removes. -/
theorem offered_of_perform (index : Index) {operation : Operation} (hkeyed : operation.Keyed) :
    let step := index.perform operation
    ∃ (accepted : List ResourceId) (refused : List Refusal),
      step.fault = none ∧
      step.index.queue = { index.queue with items := index.queue.items ++ accepted } ∧
      step.events = refused.map dropped ∧
      (∀ label, step.index.metrics.enqueued.count label = index.metrics.enqueued.count label +
        if label = index.ownerKind.text then accepted.length else 0) ∧
      (∀ label, step.index.metrics.dropped.count label = index.metrics.dropped.count label +
        if label = index.ownerKind.text then refused.length else 0) ∧
      (∀ owner, step.index.subordinatesOf owner ≠ index.subordinatesOf owner →
        owner ∈ accepted ++ refused.map Refusal.id) ∧
      ∀ owner, owner ∈ accepted ++ refused.map Refusal.id ↔
        (∃ resource ∈ operation.applied, owner ∈ index.ownerKind.route resource) ∨
          ∃ id, ((∃ resource ∈ operation.applied, resource.key = .ok id) ∨
              id ∈ operation.removed) ∧
            owner ∈ index.owners id := by
  intro step
  have hstep : step.Revises index (operation.revisions index.ownerKind) :=
    index.revises_perform hkeyed
  let offered := index.ownership.offersAll (operation.revisions index.ownerKind)
  have hsplit : index.queue.admitted offered ++ (index.queue.refusals offered).map Refusal.id =
      offered :=
    index.queue.admitted_append_refusals offered
  refine ⟨index.queue.admitted offered, index.queue.refusals offered, hstep.fault, hstep.queue,
    hstep.events, ?_, ?_, ?_, ?_⟩
  · intro label
    rw [hstep.enqueued, CounterFamily.count_raiseBy]
  · intro label
    rw [hstep.dropped, CounterFamily.count_raiseBy]
  · intro owner hchanged
    rw [hsplit]
    by_contra hoffered
    refine hchanged (Set.ext fun id => ?_)
    -- an owner that is not offered is recorded where it was
    have hkept : owner ∈ index.owners id ↔ owner ∈ step.index.owners id := by
      by_contra hdiffers
      rw [hstep.owners, Index.owners] at hdiffers
      exact hoffered (Ownership.mem_offersAll_of_changed hdiffers)
    exact hkept.symm
  · intro owner
    rw [hsplit]
    exact mem_offersAll_revisions hkeyed

/-- A group that had an owner is listed twice, first with another owner and then with none, and is
removed as well, while the queue has room for one key.  The owner that it had loses it, and is
offered; the queue takes the other one and drops this one. -/
theorem offered_of_perform_of_full_queue :
    let group (owners : List Owner) : Subordinate :=
      ⟨"ConsumerGroup", some "ns", some "group", none, owners⟩
    let index : Index :=
      { ((Index.of (.ofKind "KafkaSource") .unbounded).apply
            (group [⟨"KafkaSource", "before"⟩])).index with
        queue := ⟨some 1, [], false⟩ }
    let operation : Operation :=
      .resetting "ConsumerGroup" [group [⟨"kafkasource", "after"⟩], group []] [⟨"ns", "group"⟩]
    let step := index.perform operation
    operation.Keyed ∧ step.index.subordinatesOf ⟨"ns", "before"⟩ ≠
      index.subordinatesOf ⟨"ns", "before"⟩ ∧
    ∃ (accepted : List ResourceId) (refused : List Refusal),
      step.index.queue.items = index.queue.items ++ accepted ∧
      step.events = refused.map dropped ∧
      ⟨"ns", "before"⟩ ∈ accepted ++ refused.map Refusal.id ∧
      step.index.queue.items = [⟨"ns", "after"⟩] := by
  intro group index operation step
  have hkeyed : operation.Keyed := by
    intro resource hresource
    have hkey : resource.key = .ok ⟨"ns", "group"⟩ := by
      rcases List.mem_cons.mp hresource with rfl | hlast
      · rfl
      · rw [List.mem_singleton.mp hlast]
        rfl
    exact ⟨_, hkey⟩
  have hbefore : ⟨"ns", "before"⟩ ∈ index.owners ⟨"ns", "group"⟩ := by decide +kernel
  have hafter : ⟨"ns", "before"⟩ ∉ step.index.owners ⟨"ns", "group"⟩ := by decide +kernel
  have hchanged : step.index.subordinatesOf ⟨"ns", "before"⟩ ≠
      index.subordinatesOf ⟨"ns", "before"⟩ := by
    intro hsame
    rw [← mem_subordinatesOf, ← hsame] at hbefore
    exact hafter (mem_subordinatesOf.mp hbefore)
  obtain ⟨accepted, refused, -, hqueue, hevents, -, -, hnotice, -⟩ :=
    offered_of_perform index hkeyed
  have hitems : step.index.queue.items = index.queue.items ++ accepted := by rw [hqueue]
  exact ⟨hkeyed, hchanged, accepted, refused, hitems, hevents, hnotice _ hchanged,
    by decide +kernel⟩

end StatusRouter.Index
