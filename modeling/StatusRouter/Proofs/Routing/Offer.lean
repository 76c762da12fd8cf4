import StatusRouter.Routing.Index

/-!
# Offering several keys

As long as nobody receives from a queue, of the keys that are offered to it one after another it
accepts the first ones, as many as fit, and refuses the others.  `admitted` and `refusals` say which
keys these are, and `offerAll_eq` says that an index offers keys in this way: the admitted ones are
in the queue and counted, the refused ones are counted and reported, and nothing else changes.
-/

namespace StatusRouter

/-! ## Counters that are raised several times -/

namespace CounterFamily

/-- Raises a counter a number of times. -/
def raiseBy (family : CounterFamily) (label : String) : Nat → CounterFamily
  | 0 => family
  | n + 1 => (family.raise label).raiseBy label n

theorem raiseBy_add (family : CounterFamily) (label : String) (m n : Nat) :
    family.raiseBy label (m + n) = (family.raiseBy label m).raiseBy label n := by
  induction m generalizing family with
  | zero => rw [Nat.zero_add, raiseBy]
  | succ m ih => rw [Nat.add_right_comm, raiseBy, ih, raiseBy]

theorem count_raiseBy (family : CounterFamily) (label other : String) (n : Nat) :
    (family.raiseBy label n).count other = family.count other + if other = label then n else 0 := by
  induction n generalizing family with
  | zero => simp [raiseBy]
  | succ n ih =>
      rw [raiseBy, ih, count_raise]
      split <;> omega

end CounterFamily

/-! ## What a queue accepts -/

namespace WorkQueue

variable (queue : WorkQueue) (ids : List ResourceId)

/-- Of keys that are offered one after another, those that the queue accepts. -/
def admitted : List ResourceId :=
  if queue.closed then []
  else match queue.capacity with
    | none => ids
    | some capacity => ids.take (capacity - queue.items.length)

/-- Of keys that are offered one after another, the refusals of those that the queue refuses. -/
def refusals : List Refusal :=
  (ids.drop (queue.admitted ids).length).map (if queue.closed then .closed else .full)

/-- The queue after keys were offered one after another. -/
def extended : WorkQueue := { queue with items := queue.items ++ queue.admitted ids }

theorem admitted_eq_take : queue.admitted ids = ids.take (queue.admitted ids).length := by
  unfold admitted
  split
  · rfl
  · split
    · rw [List.take_length]
    · rw [List.length_take, List.take_eq_take_min]

theorem length_admitted :
    (queue.admitted ids).length =
      if queue.closed then 0
      else match queue.capacity with
        | none => ids.length
        | some capacity => min ids.length (capacity - queue.items.length) := by
  unfold admitted
  split
  · rfl
  · cases queue.capacity with
    | none => rfl
    | some capacity => rw [List.length_take, Nat.min_comm]

/-- Every key that is offered is accepted or refused, and the accepted ones come first. -/
theorem admitted_append_refusals :
    queue.admitted ids ++ (queue.refusals ids).map Refusal.id = ids := by
  have hid : Refusal.id ∘ (if queue.closed then Refusal.closed else Refusal.full) = id := by
    split <;> rfl
  have htake := queue.admitted_eq_take ids
  rw [refusals, List.map_map, hid, List.map_id]
  generalize (queue.admitted ids).length = count at htake ⊢
  rw [htake, List.take_append_drop]

variable {queue} {ids} {id : ResourceId} {rest : List ResourceId}

@[simp] theorem admitted_nil : queue.admitted [] = [] := by
  unfold admitted
  split
  · rfl
  · split <;> simp

@[simp] theorem refusals_nil : queue.refusals [] = [] := by
  simp [refusals]

@[simp] theorem extended_nil : queue.extended [] = queue := by
  simp [extended]

section

variable {after : WorkQueue}

theorem admitted_cons_of_ok (h : queue.offer id = .ok after) :
    queue.admitted (id :: rest) = id :: after.admitted rest := by
  obtain ⟨hclosed, hfull, rfl⟩ := offer_eq_ok_iff.mp h
  unfold admitted
  cases hcapacity : queue.capacity with
  | none => simp [hclosed]
  | some capacity =>
      have hroom : queue.items.length < capacity := by simpa [isFull, hcapacity] using hfull
      have hsucc : capacity - queue.items.length = capacity - (queue.items.length + 1) + 1 := by
        omega
      simp [hclosed, hsucc]

theorem refusals_cons_of_ok (h : queue.offer id = .ok after) :
    queue.refusals (id :: rest) = after.refusals rest := by
  rw [refusals, admitted_cons_of_ok h]
  obtain ⟨-, -, rfl⟩ := offer_eq_ok_iff.mp h
  simp [refusals]

theorem extended_cons_of_ok (h : queue.offer id = .ok after) :
    queue.extended (id :: rest) = after.extended rest := by
  rw [extended, admitted_cons_of_ok h]
  obtain ⟨-, -, rfl⟩ := offer_eq_ok_iff.mp h
  simp [extended]

end

section

variable {refusal : Refusal}

/-- A queue that refuses a key admits none, since a refusal does not change it. -/
theorem admitted_of_error (h : queue.offer id = .error refusal) : queue.admitted ids = [] := by
  unfold offer at h
  unfold admitted
  split at h
  · rename_i hclosed
    rw [if_pos hclosed]
  · rename_i hopen
    rw [if_neg hopen]
    split at h
    · rename_i hfull
      cases hcapacity : queue.capacity with
      | none => simp [isFull, hcapacity] at hfull
      | some capacity =>
          have hroom : capacity ≤ queue.items.length := by simpa [isFull, hcapacity] using hfull
          simp [Nat.sub_eq_zero_of_le hroom]
    · cases h

theorem refusals_cons_of_error (h : queue.offer id = .error refusal) :
    queue.refusals (id :: rest) = refusal :: queue.refusals rest := by
  have hrefusal : refusal = (if queue.closed then Refusal.closed else Refusal.full) id := by
    unfold offer at h
    split at h
    · rename_i hclosed
      rw [if_pos hclosed]
      exact (Except.error.inj h).symm
    · rename_i hopen
      rw [if_neg hopen]
      split at h
      · exact (Except.error.inj h).symm
      · cases h
  simp [refusals, admitted_of_error h, hrefusal]

theorem extended_of_error (h : queue.offer id = .error refusal) : queue.extended ids = queue := by
  simp [extended, admitted_of_error h]

end

theorem admitted_append (later : List ResourceId) :
    queue.admitted (ids ++ later) = queue.admitted ids ++ (queue.extended ids).admitted later := by
  induction ids generalizing queue with
  | nil => simp
  | cons id ids ih =>
      cases h : queue.offer id with
      | ok after =>
          rw [List.cons_append, admitted_cons_of_ok h, admitted_cons_of_ok h,
            extended_cons_of_ok h, ih, List.cons_append]
      | error refusal =>
          rw [admitted_of_error h, admitted_of_error h, extended_of_error h, admitted_of_error h,
            List.append_nil]

theorem refusals_append (later : List ResourceId) :
    queue.refusals (ids ++ later) = queue.refusals ids ++ (queue.extended ids).refusals later := by
  induction ids generalizing queue with
  | nil => simp
  | cons id ids ih =>
      cases h : queue.offer id with
      | ok after =>
          rw [List.cons_append, refusals_cons_of_ok h, refusals_cons_of_ok h,
            extended_cons_of_ok h, ih]
      | error refusal =>
          have hrest : queue.refusals (ids ++ later) =
              queue.refusals ids ++ (queue.extended ids).refusals later := ih
          rw [extended_of_error h] at hrest ⊢
          rw [List.cons_append, refusals_cons_of_error h, refusals_cons_of_error h, hrest,
            List.cons_append]

theorem extended_append (later : List ResourceId) :
    queue.extended (ids ++ later) = (queue.extended ids).extended later := by
  simp [extended, admitted_append]

end WorkQueue

/-! ## What an index makes of it -/

namespace Index

/-- The index after keys were offered one after another: the admitted keys are in the queue and
counted, and the refused ones are counted. -/
def afterOffering (index : Index) (ids : List ResourceId) : Index :=
  { index with
    queue := index.queue.extended ids
    metrics :=
      { index.metrics with
        enqueued :=
          index.metrics.enqueued.raiseBy index.ownerKind.text (index.queue.admitted ids).length
        dropped :=
          index.metrics.dropped.raiseBy index.ownerKind.text (index.queue.refusals ids).length } }

/-- An index offers keys one after another, and reports the refusals. -/
theorem offerAll_eq (index : Index) (ids : List ResourceId) :
    index.offerAll ids = (index.afterOffering ids, (index.queue.refusals ids).map dropped) := by
  induction ids generalizing index with
  | nil => simp [offerAll, afterOffering, CounterFamily.raiseBy]
  | cons id ids ih =>
      cases h : index.queue.offer id with
      | ok after =>
          simp [offerAll, offer, h, ih, afterOffering, IndexMetrics.accepted,
            WorkQueue.admitted_cons_of_ok h, WorkQueue.refusals_cons_of_ok h,
            WorkQueue.extended_cons_of_ok h, CounterFamily.raiseBy]
      | error refusal =>
          simp [offerAll, offer, h, ih, afterOffering, IndexMetrics.refused,
            WorkQueue.admitted_of_error h, WorkQueue.refusals_cons_of_error h,
            WorkQueue.extended_of_error h, CounterFamily.raiseBy]

end Index

end StatusRouter
