import StatusRouter.Routing.ResourceId

/-!
# Work queues

A work queue hands keys to a receiver in the order in which it accepted them.  It may have a
capacity, and refuses a key when it is full or when the receiver is gone.  A refusal gives the key
back.
-/

namespace StatusRouter

/-- A queue of keys. -/
structure WorkQueue where
  /-- The largest number of keys; no bound if there is none. -/
  capacity : Option Nat
  items : List ResourceId
  /-- Whether the receiver is gone. -/
  closed : Bool
  deriving DecidableEq

/-- Why a queue refused a key. -/
inductive Refusal where
  | full (id : ResourceId)
  | closed (id : ResourceId)
  deriving DecidableEq

namespace Refusal

/-- The key that was refused. -/
def id : Refusal → ResourceId
  | full id => id
  | closed id => id

/-- The name of the reason. -/
def name : Refusal → String
  | full _ => "Full"
  | closed _ => "Closed"

/-- The text of the reason. -/
def message : Refusal → String
  | full _ => "work queue is full"
  | closed _ => "work queue is closed"

end Refusal

/-- Why a queue cannot be made. -/
inductive CapacityFault where
  | zero
  | tooLarge
  deriving DecidableEq

namespace WorkQueue

/-- The largest capacity. -/
def maxCapacity : Nat := 2305843009213693951

end WorkQueue

/-- The text of the fault. -/
def CapacityFault.message : CapacityFault → String
  | zero => "mpsc bounded channel requires buffer > 0"
  | tooLarge =>
    "a semaphore may not have more than MAX_PERMITS permits (" ++ toString WorkQueue.maxCapacity ++
      ")"

namespace WorkQueue

/-- An empty queue without a bound. -/
def unbounded : WorkQueue := ⟨none, [], false⟩

/-- An empty queue with a bound, which has to be positive. -/
def bounded (capacity : Nat) : Except CapacityFault WorkQueue :=
  if capacity = 0 then .error .zero
  else if maxCapacity < capacity then .error .tooLarge
  else .ok ⟨some capacity, [], false⟩

/-- An empty queue with a bound if one is given. -/
def ofCapacity : Option Nat → Except CapacityFault WorkQueue
  | none => .ok unbounded
  | some capacity => bounded capacity

/-- Whether no key fits. -/
def isFull (queue : WorkQueue) : Bool :=
  match queue.capacity with
  | none => false
  | some capacity => capacity ≤ queue.items.length

/-- The queue with a key added, unless it is refused. -/
def offer (queue : WorkQueue) (id : ResourceId) : Except Refusal WorkQueue :=
  if queue.closed then .error (.closed id)
  else if queue.isFull then .error (.full id)
  else .ok { queue with items := queue.items ++ [id] }

/-- A key is accepted if the receiver is there and the queue is not full, and then stands last. -/
theorem offer_eq_ok_iff {queue after : WorkQueue} {id : ResourceId} :
    queue.offer id = .ok after ↔
      queue.closed = false ∧ queue.isFull = false ∧
        after = { queue with items := queue.items ++ [id] } := by
  unfold offer
  cases queue.closed <;> cases queue.isFull <;> simp [eq_comm]

/-- A refusal gives back the key that was offered. -/
theorem id_of_offer_eq_error {queue : WorkQueue} {id : ResourceId} {refusal : Refusal}
    (h : queue.offer id = .error refusal) : refusal.id = id := by
  unfold offer at h
  split at h
  · cases h
    rfl
  · split at h
    · cases h
      rfl
    · cases h

/-- Takes the next key, if there is one. -/
def receive (queue : WorkQueue) : Option ResourceId × WorkQueue :=
  match queue.items with
  | [] => (none, queue)
  | id :: rest => (some id, { queue with items := rest })

/-- Takes all keys. -/
def drain (queue : WorkQueue) : List ResourceId × WorkQueue :=
  (queue.items, { queue with items := [] })

/-- Drops the receiver; the keys in the queue are lost. -/
def close (queue : WorkQueue) : WorkQueue :=
  { queue with items := [], closed := true }

end WorkQueue

end StatusRouter
