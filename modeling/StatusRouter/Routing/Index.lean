import StatusRouter.Distinct
import StatusRouter.Routing.Metrics
import StatusRouter.Routing.OwnerKind
import StatusRouter.Routing.Ownership

/-!
# The ownership index

The index records which owners each subordinate refers to.  When a subordinate is updated or
deleted, the keys of its owners are offered to a work queue, so that an owner is looked at again
both when a subordinate begins and when it ceases to refer to it.

What the queue refuses is counted and reported, and lost; the records do not depend on it.
-/

namespace StatusRouter

/-- Why an update was not carried out. -/
inductive ResourceFault where
  | noNamespace
  | noName
  deriving DecidableEq

/-- The text of the fault. -/
def ResourceFault.message : ResourceFault → String
  | noNamespace => "resource must have a namespace"
  | noName => ".metadata.name missing"

/-- The ownership index. -/
structure Index where
  ownerKind : OwnerKind
  queue : WorkQueue
  ownership : Ownership
  metrics : IndexMetrics
  deriving DecidableEq

/-- What an operation on an index leads to. -/
structure IndexStep where
  index : Index
  events : List LogEvent
  /-- Why the operation was broken off. -/
  fault : Option ResourceFault
  deriving DecidableEq

/-- Carries out another operation after a step, unless the step was broken off. -/
def IndexStep.andThen (step : IndexStep) (next : Index → IndexStep) : IndexStep :=
  match step.fault with
  | some _ => step
  | none =>
    let second := next step.index
    { second with events := step.events ++ second.events }

namespace Index

/-- An index without records. -/
def of (ownerKind : OwnerKind) (queue : WorkQueue) : Index :=
  ⟨ownerKind, queue, .empty, .empty⟩

/-- The recorded owners of a subordinate. -/
def owners (index : Index) (subordinate : ResourceId) : List ResourceId :=
  index.ownership.owners subordinate

/-- The number of subordinates with an owner of the indexed kind. -/
def size (index : Index) : Nat := index.ownership.size

def isEmpty (index : Index) : Bool := index.size == 0

/-! ## Offering keys -/

/-- The event that reports a refused key. -/
def dropped : Refusal → LogEvent
  | .full id => .plain .warn "Work queue full; dropping owner" [("owner", id.text)]
  | .closed id => .plain .debug "Work queue closed; dropping owner" [("owner", id.text)]

/-- Offers a key to the queue, and counts what came of it. -/
def offer (index : Index) (id : ResourceId) : Index × List LogEvent :=
  match index.queue.offer id with
  | .ok queue =>
    ({ index with queue, metrics := index.metrics.accepted index.ownerKind.text }, [])
  | .error refusal =>
    ({ index with metrics := index.metrics.refused index.ownerKind.text }, [dropped refusal])

/-- Offers keys to the queue, one after another. -/
def offerAll (index : Index) : List ResourceId → Index × List LogEvent
  | [] => (index, [])
  | id :: rest =>
    let (index, events) := index.offer id
    let (index, others) := index.offerAll rest
    (index, events ++ others)

/-- Offering a key changes no record. -/
@[simp] theorem ownership_offer (index : Index) (id : ResourceId) :
    (index.offer id).1.ownership = index.ownership := by
  unfold offer
  split <;> rfl

@[simp] theorem ownership_offerAll (index : Index) (ids : List ResourceId) :
    (index.offerAll ids).1.ownership = index.ownership := by
  induction ids generalizing index with
  | nil => rfl
  | cons id rest ih => exact (ih _).trans (ownership_offer index id)

/-! ## Updates and deletions -/

/-- The gauge set to the number of records. -/
def measured (index : Index) : Index :=
  { index with metrics := { index.metrics with size := index.size } }

/-- The keys that an update of a subordinate is offered for: its owners, and then the recorded ones
that it no longer refers to. -/
def offers (index : Index) (subordinate : ResourceId) (owners : List ResourceId) :
    List ResourceId :=
  owners ++ (index.owners subordinate).filter fun owner => owner ∉ owners

/-- The event that reports a resource that cannot have owners. -/
def ignoring (resource : Subordinate) : LogEvent :=
  .plain .debug "Ignoring resource without a namespace" [("name", resource.anyName)]

/-- Records the owners of an updated subordinate and offers their keys. -/
def record (index : Index) (subordinate : ResourceId) (owners : List ResourceId) : IndexStep :=
  let offered := index.offers subordinate owners
  let (index, events) :=
    ({ index with ownership := index.ownership.set subordinate owners } : Index).offerAll offered
  ⟨index.measured, events, none⟩

/-- A subordinate has the owners of its last update, and all others keep theirs. -/
theorem owners_record (index : Index) (subordinate other : ResourceId) (owners : List ResourceId) :
    (index.record subordinate owners).index.owners other =
      if other = subordinate then owners else index.owners other := by
  simp only [record, Index.owners, measured, ownership_offerAll]
  exact Ownership.owners_set index.ownership subordinate other owners

/-- Takes in an updated subordinate.  One without a namespace is ignored; one with a namespace but
no name breaks the operation off. -/
def apply (index : Index) (resource : Subordinate) : IndexStep :=
  let index := { index with metrics := index.metrics.applied resource.kind }
  match resource.namespace, resource.name with
  | none, _ => ⟨index, [ignoring resource], none⟩
  | some _, none => ⟨index, [], some .noName⟩
  | some ns, some name => index.record ⟨ns, name⟩ (index.ownerKind.route resource)

/-- Takes in the deletion of a subordinate of a kind: forgets it and offers the keys of its recorded
owners. -/
def delete (index : Index) (kind : String) (subordinate : ResourceId) : IndexStep :=
  let offered := index.owners subordinate
  let index :=
    { index with
      metrics := index.metrics.deleted kind
      ownership := index.ownership.erase subordinate }
  let (index, events) := index.offerAll offered
  ⟨index.measured, events, none⟩

/-- A deleted subordinate has no owners, and all others keep theirs. -/
theorem owners_delete (index : Index) (kind : String) (subordinate other : ResourceId) :
    (index.delete kind subordinate).index.owners other =
      if other = subordinate then [] else index.owners other := by
  simp only [delete, Index.owners, measured, ownership_offerAll]
  exact Ownership.owners_erase index.ownership subordinate other

/-- Carries out operations one after another, until one is broken off. -/
def sequence (index : Index) : List (Index → IndexStep) → IndexStep
  | [] => ⟨index, [], none⟩
  | operation :: rest => (operation index).andThen fun index => index.sequence rest

/-- Takes in a new listing of subordinates of a kind: updates all that are listed, and then deletes
those that are listed no more, each once. -/
def reset (index : Index) (kind : String) (resources : List Subordinate)
    (removed : List ResourceId) : IndexStep :=
  index.sequence
    (resources.map (fun resource index => index.apply resource) ++
      (distinct removed).map fun id index => index.delete kind id)

end Index

end StatusRouter
