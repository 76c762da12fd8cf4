import Mathlib.Data.List.Induction
import StatusRouter.Proofs.Routing.Offer

/-!
# What becomes of the keys of a queue

A history of a queue is a list of what its two ends did to it, key by key: the senders offer keys,
and the receiver takes them out or goes away.  `ledgerOf` keeps the books over a history.  Every key
that is offered is accepted or refused, in order, and every key that was accepted was received, or
was lost with the receiver, or is in the queue still (`balanced_ledgerOf`).
-/

namespace StatusRouter.WorkQueue

/-- What happens to a queue. -/
inductive Action where
  | offering (id : ResourceId)
  | receiving
  | closing
  deriving DecidableEq

/-- The keys that are offered in a history, in order. -/
def offeredIn (history : List Action) : List ResourceId :=
  history.filterMap fun action =>
    match action with
    | .offering id => some id
    | .receiving | .closing => none

/-- What has become of the keys that were offered to a queue. -/
structure Ledger where
  queue : WorkQueue
  accepted : List ResourceId
  refused : List Refusal
  received : List ResourceId
  /-- The keys that were in the queue when the receiver went away. -/
  lost : List ResourceId

namespace Ledger

/-- The ledger after a key was accepted, which is then in the queue. -/
def accept (ledger : Ledger) (id : ResourceId) (queue : WorkQueue) : Ledger :=
  { ledger with queue, accepted := ledger.accepted ++ [id] }

/-- The ledger after a key was refused. -/
def refuse (ledger : Ledger) (refusal : Refusal) : Ledger :=
  { ledger with refused := ledger.refused ++ [refusal] }

/-- The ledger after one more action. -/
def next (ledger : Ledger) : Action → Ledger
  | .offering id =>
    match ledger.queue.offer id with
    | .ok queue => ledger.accept id queue
    | .error refusal => ledger.refuse refusal
  | .receiving =>
    { ledger with
      queue := ledger.queue.receive.2
      received := ledger.received ++ ledger.queue.receive.1.toList }
  | .closing =>
    { ledger with queue := ledger.queue.close, lost := ledger.lost ++ ledger.queue.items }

end Ledger

/-- The ledger of a queue over a history. -/
def ledgerOf (queue : WorkQueue) (history : List Action) : Ledger :=
  history.foldl Ledger.next ⟨queue, [], [], [], []⟩

variable {queue : WorkQueue} {ledger : Ledger} {history later : List Action} {id : ResourceId}

theorem ledgerOf_append : queue.ledgerOf (history ++ later) =
    later.foldl Ledger.next (queue.ledgerOf history) :=
  List.foldl_append

theorem ledgerOf_append_singleton (action : Action) :
    queue.ledgerOf (history ++ [action]) = (queue.ledgerOf history).next action :=
  ledgerOf_append

theorem offeredIn_append :
    offeredIn (history ++ later) = offeredIn history ++ offeredIn later :=
  List.filterMap_append

theorem foldl_next_offering (ids : List ResourceId) :
    (ids.map Action.offering).foldl Ledger.next ledger =
      { ledger with
        queue := ledger.queue.extended ids
        accepted := ledger.accepted ++ ledger.queue.admitted ids
        refused := ledger.refused ++ ledger.queue.refusals ids } := by
  induction ids generalizing ledger with
  | nil => simp
  | cons id ids ih =>
      rw [List.map_cons, List.foldl_cons, ih]
      cases h : ledger.queue.offer id with
      | ok after =>
          simp [Ledger.next, Ledger.accept, h, admitted_cons_of_ok h, refusals_cons_of_ok h,
            extended_cons_of_ok h]
      | error refusal =>
          simp [Ledger.next, Ledger.refuse, h, admitted_of_error h, refusals_cons_of_error h,
            extended_of_error h]

theorem toList_receive_append (queue : WorkQueue) :
    queue.receive.1.toList ++ queue.receive.2.items = queue.items := by
  unfold receive
  split
  · rename_i hitems
    rw [hitems]
    rfl
  · rename_i hitems
    rw [hitems]
    rfl

theorem snd_receive (queue : WorkQueue) :
    queue.receive.2 = { queue with items := queue.items.tail } := by
  obtain ⟨capacity, items, closed⟩ := queue
  cases items <;> rfl

/-! ## Every offered key has an entry -/

theorem Ledger.perm_next
    (h : (ledger.accepted ++ ledger.refused.map Refusal.id).Perm (offeredIn history))
    (action : Action) :
    ((ledger.next action).accepted ++ (ledger.next action).refused.map Refusal.id).Perm
      (offeredIn (history ++ [action])) := by
  rw [offeredIn_append]
  cases action with
  | offering id =>
      have hoffered : (ledger.accepted ++ ledger.refused.map Refusal.id ++ [id]).Perm
          (offeredIn history ++ [id]) := h.append_right [id]
      cases hoffer : ledger.queue.offer id with
      | ok queue =>
          have hnext : ledger.next (.offering id) = ledger.accept id queue := by
            rw [Ledger.next, hoffer]
          -- the key comes before the refusals that were made earlier
          refine List.Perm.trans ?_ hoffered
          rw [hnext]
          simp only [Ledger.accept, List.append_assoc]
          exact List.perm_append_comm.append_left ledger.accepted
      | error refusal =>
          have hnext : ledger.next (.offering id) = ledger.refuse refusal := by
            rw [Ledger.next, hoffer]
          rw [hnext]
          simp only [Ledger.refuse, List.map_append, List.map_singleton, id_of_offer_eq_error hoffer,
            ← List.append_assoc]
          exact hoffered
  | receiving | closing =>
      have hoffered : (offeredIn history).Perm (offeredIn history ++ []) :=
        List.Perm.of_eq (List.append_nil _).symm
      exact h.trans hoffered

/-- Every key that is offered is accepted or refused, as often as it is offered. -/
theorem perm_ledgerOf (queue : WorkQueue) (history : List Action) :
    ((queue.ledgerOf history).accepted ++ (queue.ledgerOf history).refused.map Refusal.id).Perm
      (offeredIn history) := by
  induction history using List.reverseRecOn with
  | nil => exact List.Perm.nil
  | append_singleton history action ih =>
      rw [ledgerOf_append_singleton]
      exact Ledger.perm_next ih action

/-! ## The books balance -/

/-- The ledger of a queue with a capacity accounts for all keys of a history. -/
structure Balanced (capacity : Nat) (history : List Action) (ledger : Ledger) : Prop where
  bound : ledger.queue.capacity = some capacity
  closed : ledger.queue.closed = decide (.closing ∈ history)
  /-- What is received, lost and left is what was accepted, in order. -/
  conserved : ledger.received ++ (ledger.lost ++ ledger.queue.items) = ledger.accepted
  lost : ledger.queue.closed = false → ledger.lost = []
  items : ledger.queue.closed = true → ledger.queue.items = []
  length_le : ledger.queue.items.length ≤ capacity
  sublist : ledger.accepted.Sublist (offeredIn history)
  length_add : ledger.accepted.length + ledger.refused.length = (offeredIn history).length

/-- A key is refused exactly if the receiver is gone, or the queue holds as many keys as it may. -/
theorem Balanced.next_offering {capacity : Nat} (h : Balanced capacity history ledger)
    (id : ResourceId) :
    ledger.next (.offering id) =
      if .closing ∈ history then ledger.refuse (.closed id)
      else if ledger.queue.items.length = capacity then ledger.refuse (.full id)
      else ledger.accept id { ledger.queue with items := ledger.queue.items ++ [id] } := by
  have hfull : ledger.queue.isFull = decide (ledger.queue.items.length = capacity) := by
    have hle := h.length_le
    rw [isFull, h.bound]
    exact decide_eq_decide.mpr (by omega)
  rw [Ledger.next, offer, h.closed, hfull]
  by_cases hclosed : .closing ∈ history
  · simp [hclosed]
  · by_cases hlength : ledger.queue.items.length = capacity <;> simp [hclosed, hlength, h.closed]

theorem Balanced.refuse {capacity : Nat} (h : Balanced capacity history ledger) (id : ResourceId)
    (refusal : Refusal) : Balanced capacity (history ++ [.offering id]) (ledger.refuse refusal) where
  bound := h.bound
  closed := by simp [Ledger.refuse, h.closed]
  conserved := h.conserved
  lost := h.lost
  items := h.items
  length_le := h.length_le
  sublist := by
    rw [offeredIn_append]
    exact h.sublist.trans (List.sublist_append_left ..)
  length_add := by
    rw [offeredIn_append, List.length_append, Ledger.refuse, List.length_append, ← h.length_add,
      Nat.add_assoc]
    rfl

theorem Balanced.accept {capacity : Nat} (h : Balanced capacity history ledger) (id : ResourceId)
    (hclosed : .closing ∉ history) (hlength : ledger.queue.items.length ≠ capacity) :
    Balanced capacity (history ++ [.offering id])
      (ledger.accept id { ledger.queue with items := ledger.queue.items ++ [id] }) where
  bound := h.bound
  closed := by simp [Ledger.accept, h.closed]
  conserved := by simp [Ledger.accept, ← h.conserved]
  lost := h.lost
  items := fun hitems => by simp [Ledger.accept, h.closed, hclosed] at hitems
  length_le := by
    have hle := h.length_le
    simp only [Ledger.accept, List.length_append, List.length_singleton]
    omega
  sublist := by
    rw [offeredIn_append]
    exact h.sublist.append (List.Sublist.refl _)
  length_add := by
    rw [offeredIn_append, List.length_append, Ledger.accept, List.length_append, ← h.length_add,
      Nat.add_right_comm]
    rfl

theorem Balanced.next {capacity : Nat} (h : Balanced capacity history ledger) (action : Action) :
    Balanced capacity (history ++ [action]) (ledger.next action) := by
  cases action with
  | offering id =>
      rw [h.next_offering id]
      split
      · exact h.refuse id _
      · rename_i hclosed
        split
        · exact h.refuse id _
        · rename_i hlength
          exact h.accept id hclosed hlength
  | receiving =>
      have hoffered : offeredIn (history ++ [.receiving]) = offeredIn history := by
        rw [offeredIn_append]
        exact List.append_nil _
      have hsplit := ledger.queue.toList_receive_append
      have hqueue := ledger.queue.snd_receive
      exact
        { bound := by rw [Ledger.next, hqueue]; exact h.bound
          closed := by simp [Ledger.next, hqueue, h.closed]
          conserved := by
            rw [Ledger.next, ← h.conserved, ← hsplit, List.append_assoc]
            -- either nothing is lost yet, or nothing can be received any more
            cases hclosed : ledger.queue.closed with
            | false => rw [h.lost hclosed, List.nil_append, List.nil_append]
            | true =>
                rw [h.items hclosed, List.append_eq_nil_iff] at hsplit
                rw [hsplit.1, List.nil_append, List.nil_append]
          lost := by rw [Ledger.next, hqueue]; exact h.lost
          items := by
            rw [Ledger.next, hqueue]
            intro hclosed
            rw [h.items hclosed, List.tail_nil]
          length_le := by
            rw [Ledger.next, hqueue, List.length_tail]
            exact Nat.le_trans (Nat.sub_le ..) h.length_le
          sublist := by rw [hoffered]; exact h.sublist
          length_add := by rw [hoffered]; exact h.length_add }
  | closing =>
      have hoffered : offeredIn (history ++ [.closing]) = offeredIn history := by
        rw [offeredIn_append]
        exact List.append_nil _
      exact
        { bound := h.bound
          closed := by simp [Ledger.next, close]
          conserved := by simp [Ledger.next, close, ← h.conserved]
          lost := by simp [Ledger.next, close]
          items := fun _ => rfl
          length_le := Nat.zero_le capacity
          sublist := by rw [hoffered]; exact h.sublist
          length_add := by rw [hoffered]; exact h.length_add }

/-- The books of a queue with a capacity balance after every history. -/
theorem balanced_ledgerOf (capacity : Nat) (history : List Action) :
    Balanced capacity history (ledgerOf ⟨some capacity, [], false⟩ history) := by
  induction history using List.reverseRecOn with
  | nil =>
      exact
        { bound := rfl
          closed := rfl
          conserved := rfl
          lost := fun _ => rfl
          items := fun _ => rfl
          length_le := Nat.zero_le capacity
          sublist := List.Sublist.slnil
          length_add := rfl }
  | append_singleton history action ih =>
      rw [ledgerOf_append_singleton]
      exact ih.next action

end StatusRouter.WorkQueue
