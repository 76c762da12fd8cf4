import StatusRouter.LogEvent
import StatusRouter.Resource.Kind
import StatusRouter.Routing.Subordinate
import StatusRouter.Routing.WorkQueue

/-!
# Kinds of owners

A subordinate is routed to those of its owners that are of one kind.  Kinds are compared without
regard to the case of ASCII letters; other letters are compared as they are.
-/

namespace StatusRouter

/-- Selects owners by their kind. -/
structure OwnerKind where
  /-- The kind in small ASCII letters. -/
  text : String
  deriving DecidableEq

/-- Whether two texts are the same up to the case of ASCII letters. -/
def sameIgnoringCase (a b : String) : Bool :=
  a.toList.map Char.toLower == b.toList.map Char.toLower

namespace OwnerKind

/-- Selects the owners of a kind. -/
def ofKind (kind : String) : OwnerKind :=
  ⟨String.ofList (kind.toList.map Char.toLower)⟩

/-- Selects the owners of a kind of resources. -/
def ofResource (kind : ResourceKind) : OwnerKind := ofKind kind.kind

variable (ownerKind : OwnerKind)

/-- Whether an owner is selected. -/
def selects (owner : Owner) : Bool :=
  sameIgnoringCase owner.kind ownerKind.text

/-- Whether any owner of the resource is selected. -/
def isOwnerOf (resource : Subordinate) : Bool :=
  resource.owners.any ownerKind.selects

/-- The keys of the selected owners, in the order of the references.  Owners are in the namespace of
the resource, so a resource without a namespace has none. -/
def route (resource : Subordinate) : List ResourceId :=
  match resource.namespace with
  | none => []
  | some ns => (resource.owners.filter ownerKind.selects).map fun owner => ⟨ns, owner.name⟩

/-- The event that reports a refused key. -/
def enqueueFailed (refusal : Refusal) : LogEvent :=
  .plain .warn "Failed to enqueue owner" [("kind", ownerKind.text), ("error", refusal.message)]

/-- What came of offering keys to a queue. -/
structure Delivery where
  /-- How many keys were accepted. -/
  accepted : Nat
  queue : WorkQueue
  events : List LogEvent

/-- Offers keys to a queue, one after another. -/
def deliver (ids : List ResourceId) (queue : WorkQueue) : Delivery :=
  match ids with
  | [] => ⟨0, queue, []⟩
  | id :: rest =>
    match queue.offer id with
    | .ok queue =>
      let delivery := deliver rest queue
      { delivery with accepted := delivery.accepted + 1 }
    | .error refusal =>
      let delivery := deliver rest queue
      { delivery with events := ownerKind.enqueueFailed refusal :: delivery.events }

/-- Offers the keys of the selected owners of a resource to a queue. -/
def enqueue (resource : Subordinate) (queue : WorkQueue) : Delivery :=
  ownerKind.deliver (ownerKind.route resource) queue

end OwnerKind

end StatusRouter
