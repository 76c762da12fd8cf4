import StatusRouter.Proofs.Requeue.Service

/-!
# No key that was accepted goes unserved

A key may be offered at any time: while it waits in the queue, while the consumer gathers a batch that
has it already, or while it is looked up.  In each case it is looked up after that, in this batch or
in a later one, as long as the receiver is there (`looksUpIn_of_accepted`).

Within a batch the keys stand in order, so the key that is looked up is not among those that are left.
It can only be looked up again after the consumer has begun another batch (`begins_of_looksUp`).
-/

namespace StatusRouter.Service

variable {service after : Service} {step : Step} {steps : List Step} {id owner : ResourceId}
  {fetch : ResourceId → Lookup}

/-! ## No batch looks up a key twice -/

theorem Moves.inOrder (h : Moves service step after)
    (hpending : ResourceId.InOrder service.consumer.activity.pending) :
    ResourceId.InOrder after.consumer.activity.pending := by
  cases h with
  | operates | finishes | rests | stays => exact hpending
  | begins => exact List.pairwise_singleton _ _
  | gathers => exact hpending.insertOnce _
  | looksUp => exact List.Pairwise.of_cons hpending
  | closes => exact .nil

theorem inOrder_run (hpending : ResourceId.InOrder service.consumer.activity.pending) :
    ResourceId.InOrder (service.run steps).consumer.activity.pending := by
  induction steps generalizing service with
  | nil => exact hpending
  | cons step steps ih => exact ih ((moves_next service step).inOrder hpending)

/-- A key is not among those that are left of the batch, and no batch is being gathered. -/
def Spent (id : ResourceId) (activity : Activity) : Prop :=
  id ∉ activity.pending ∧ ∀ batch, activity ≠ .gathering batch

theorem LooksUp.spent_next (h : service.LooksUp fetch id)
    (hpending : ResourceId.InOrder service.consumer.activity.pending) :
    Spent id (service.next (.consuming fetch)).consumer.activity := by
  obtain ⟨index, rest, deeds, rfl⟩ := h.eq
  exact ⟨(List.nodup_cons.mp hpending.nodup).1, nofun⟩

/-- What is left of a batch becomes less, until another batch begins. -/
theorem Moves.spent_or_begins (h : Moves service step after)
    (hspent : Spent id service.consumer.activity) :
    Spent id after.consumer.activity ∨
      service.consumer.activity = .waiting ∧ service.index.queue.items ≠ [] ∧
        ∃ fetch, step = .consuming fetch := by
  cases h with
  | operates | stays => exact Or.inl hspent
  | begins fetch hitems => exact Or.inr ⟨rfl, by simp [hitems], fetch, rfl⟩
  | gathers | finishes => exact absurd rfl (hspent.2 _)
  | looksUp => exact Or.inl ⟨fun hmem => hspent.1 (List.mem_cons_of_mem _ hmem), nofun⟩
  | rests | closes => exact Or.inl ⟨List.not_mem_nil, nofun⟩

/-- A key that is not left of a batch is looked up after another batch has begun. -/
theorem begins_of_looksUp (hspent : Spent id service.consumer.activity)
    (hlooks : (service.run steps).LooksUp fetch id) :
    ∃ before first others, steps = before ++ .consuming first :: others ∧
      (service.run before).consumer.activity = .waiting ∧
      (service.run before).index.queue.items ≠ [] := by
  induction steps generalizing service with
  | nil =>
      rw [run_nil] at hlooks
      obtain ⟨index, rest, deeds, rfl⟩ := hlooks.eq
      exact absurd List.mem_cons_self hspent.1
  | cons step steps ih =>
      rcases (moves_next service step).spent_or_begins hspent with
        hnext | ⟨hwaiting, hitems, first, rfl⟩
      · -- the step begins no batch, so the key is not left of this one either
        obtain ⟨before, first, others, rfl, hbegins⟩ := ih hnext hlooks
        exact ⟨step :: before, first, others, rfl, hbegins⟩
      · exact ⟨[], first, steps, rfl, hwaiting, hitems⟩

/-! ## As long as no key is refused -/

theorem Moves.ownerKind (h : Moves service step after) :
    after.index.ownerKind = service.index.ownerKind := by
  cases h with
  | operates operation => exact (service.index.edited_perform operation).ownerKind
  | begins | gathers | finishes | looksUp | rests | stays | closes => rfl

theorem ownerKind_run : (service.run steps).index.ownerKind = service.index.ownerKind := by
  induction steps generalizing service with
  | nil => rfl
  | cons step steps ih => exact ih.trans (moves_next service step).ownerKind

theorem Moves.dropped_le (h : Moves service step after) (label : String) :
    service.index.metrics.dropped.count label ≤ after.index.metrics.dropped.count label := by
  cases h with
  | operates operation =>
      rw [(service.index.edited_perform operation).dropped, CounterFamily.count_raiseBy]
      exact Nat.le_add_right ..
  | begins | gathers | finishes | looksUp | rests | stays | closes => exact Nat.le_refl _

theorem dropped_le_run (label : String) :
    service.index.metrics.dropped.count label ≤
      (service.run steps).index.metrics.dropped.count label := by
  induction steps generalizing service with
  | nil => exact Nat.le_refl _
  | cons step steps ih => exact ((moves_next service step).dropped_le label).trans ih

theorem accepted_eq_offered
    (h : (service.next step).index.metrics.dropped.count service.index.ownerKind.text = 0) :
    service.accepted step = service.offered step := by
  cases step with
  | operating operation =>
      have hdropped := (service.index.edited_perform operation).dropped
      rw [next, hdropped, CounterFamily.count_raiseBy, if_pos rfl] at h
      -- the counter has not been raised, so there were no refusals
      have hnone : service.index.queue.refusals (operation.offered service.index) = [] :=
        List.eq_nil_of_length_eq_zero (Nat.eq_zero_of_add_eq_zero_left h)
      have hsplit := service.index.queue.admitted_append_refusals (operation.offered service.index)
      rw [hnone, List.map_nil, List.append_nil] at hsplit
      rw [accepted_operating, hsplit, offered]
  | consuming fetch | closing => rfl

/-- If a step changes which subordinates an owner has, it offers the key of the owner. -/
theorem mem_offered_of_changed
    (h : (service.next step).index.subordinatesOf owner ≠ service.index.subordinatesOf owner) :
    owner ∈ service.offered step := by
  have hmove := moves_next service step
  generalize service.next step = after at h hmove
  cases hmove with
  | operates operation =>
      -- an owner that is not offered is recorded where it was
      by_contra hoffered
      refine h (Set.ext fun key => ?_)
      have hkept : owner ∈ service.index.owners key ↔
          owner ∈ (service.index.perform operation).index.owners key := by
        by_contra hdiffers
        rw [Index.owners, Index.owners, (service.index.edited_perform operation).ownership] at hdiffers
        exact hoffered (Ownership.mem_offersAll_of_changed hdiffers)
      exact hkept.symm
  | begins | gathers | finishes | looksUp | rests | stays | closes => exact absurd rfl h

/-! ## What a run delivers -/

/-- As long as the receiver is there, a key that a step put in the queue is in the queue, or in the
batch and not looked up, or it was looked up at a later step. -/
theorem looksUpIn_of_accepted {earlier later : List Step}
    (halive : (service.run (earlier ++ step :: later)).index.queue.closed = false)
    (hid : id ∈ (service.run earlier).accepted step) :
    id ∈ (service.run (earlier ++ step :: later)).outstanding ∨
      (service.run (earlier ++ [step])).LooksUpIn later id := by
  rw [run_append, run_cons] at halive ⊢
  rw [run_append, run_cons, run_nil]
  exact mem_outstanding_run halive (mem_outstanding_of_accepted hid)

/-- A consumer does nothing that others see but look up keys. -/
theorem deeds_next_eq_or_looksUp (service : Service) (step : Step) :
    (service.next step).consumer.deeds = service.consumer.deeds ∨
      ∃ fetch id, step = .consuming fetch ∧ service.LooksUp fetch id := by
  have hmove := moves_next service step
  generalize service.next step = after at hmove
  cases hmove with
  | looksUp fetch => exact Or.inr ⟨fetch, _, rfl, looksUp_iff.mpr ⟨_, rfl⟩⟩
  | operates | begins | gathers | finishes | rests | stays | closes => exact Or.inl rfl

/-- Whatever comes of a look-up, it leaves the index alone, and takes its key from the batch and no
other. -/
theorem LooksUp.any (h : service.LooksUp fetch id) (other : ResourceId → Lookup) :
    service.LooksUp other id ∧
      (service.next (.consuming other)).index = service.index ∧
      service.consumer.activity.pending =
        id :: (service.next (.consuming other)).consumer.activity.pending := by
  obtain ⟨index, rest, deeds, rfl⟩ := h.eq
  exact ⟨looksUp_iff.mpr ⟨rest, rfl⟩, rfl, rfl⟩

/-- If no key was dropped in a run, every step of it put all keys in the queue that it offered. -/
theorem accepted_eq_offered_of_run {earlier later : List Step}
    (hdropped : (service.run (earlier ++ step :: later)).index.metrics.dropped.count
      service.index.ownerKind.text = 0) :
    (service.run earlier).accepted step = (service.run earlier).offered step := by
  rw [run_append, run_cons] at hdropped
  refine accepted_eq_offered (Nat.eq_zero_of_le_zero ?_)
  rw [ownerKind_run, ← hdropped]
  exact dropped_le_run _

/-- A service that runs from the beginning, and whose receiver is there.  A key that the queue
accepted at some step is in the queue, or in the batch and not looked up, or it was looked up at a
later step: the consumer asked for its source and reported the answer in the span of the key.  Between
two look-ups of a key the consumer waited and took the first key of another batch.  The consumer does
nothing else that is seen, and whatever a look-up brings, it changes neither the records nor the queue,
and only the key that is looked up leaves the batch.

So if the consumer waits, the queue is empty, and no key was dropped, then all keys that were offered at
some step were looked up at later steps, and so was an owner whenever a step had changed which
subordinates it has.  The consumer comes to wait at an empty queue if it is left alone, whatever the
cluster answers. -/
theorem delivered_of_run (ownerKind : OwnerKind) (queue : WorkQueue) (steps : List Step)
    (halive : ((of ownerKind queue).run steps).index.queue.closed = false) :
    let start := of ownerKind queue
    let service := start.run steps
    (∀ earlier step later, steps = earlier ++ step :: later →
      ∀ id ∈ (start.run earlier).accepted step,
        id ∈ service.index.queue.items ∨ id ∈ service.consumer.activity.pending ∨
          (start.run (earlier ++ [step])).LooksUpIn later id) ∧
    (∀ earlier first between second later id,
      steps = earlier ++ .consuming first :: (between ++ .consuming second :: later) →
      (start.run earlier).LooksUp first id →
      (start.run (earlier ++ .consuming first :: between)).LooksUp second id →
        ∃ before fetch others, between = before ++ .consuming fetch :: others ∧
          (start.run (earlier ++ .consuming first :: before)).consumer.activity = .waiting ∧
          (start.run (earlier ++ .consuming first :: before)).index.queue.items ≠ []) ∧
    (∀ step, (service.next step).consumer.deeds = service.consumer.deeds ∨
      ∃ fetch id, step = .consuming fetch ∧ service.LooksUp fetch id) ∧
    (∀ fetch id, service.LooksUp fetch id → ∀ other,
      service.LooksUp other id ∧
        (service.next (.consuming other)).index = service.index ∧
        service.consumer.activity.pending =
          id :: (service.next (.consuming other)).consumer.activity.pending) ∧
    (service.consumer.activity = .waiting → service.index.queue.items = [] →
      service.index.metrics.dropped.count ownerKind.text = 0 →
        ∀ earlier step later, steps = earlier ++ step :: later →
          (∀ id ∈ (start.run earlier).offered step,
            (start.run (earlier ++ [step])).LooksUpIn later id) ∧
          ∀ owner, (start.run (earlier ++ [step])).index.subordinatesOf owner ≠
              (start.run earlier).index.subordinatesOf owner →
            (start.run (earlier ++ [step])).LooksUpIn later owner) ∧
    ∀ fetch, ∃ count, let settled := service.run (List.replicate count (.consuming fetch))
      settled.consumer.activity = .waiting ∧
        settled.index = { service.index with queue := { service.index.queue with items := [] } } := by
  intro start service
  refine ⟨?_, ?_, service.deeds_next_eq_or_looksUp, fun fetch id h => h.any, ?_, ?_⟩
  · rintro earlier step later rfl id hid
    have hkept := looksUpIn_of_accepted halive hid
    rwa [outstanding, List.mem_append, or_assoc] at hkept
  · rintro earlier first between second later id rfl hfirst hsecond
    have hspent : Spent id ((start.run earlier).next (.consuming first)).consumer.activity :=
      hfirst.spent_next (inOrder_run .nil)
    simp only [run_append, run_cons] at hsecond ⊢
    exact begins_of_looksUp hspent hsecond
  · rintro hidle hempty hdropped earlier step later rfl
    have hserved : ∀ id ∈ (start.run earlier).offered step,
        (start.run (earlier ++ [step])).LooksUpIn later id := by
      intro id hid
      have haccepted : (start.run earlier).accepted step = (start.run earlier).offered step :=
        accepted_eq_offered_of_run hdropped
      rw [← haccepted] at hid
      refine (looksUpIn_of_accepted halive hid).resolve_left fun hkept => ?_
      rw [outstanding, hempty, hidle] at hkept
      exact List.not_mem_nil hkept
    refine ⟨hserved, fun owner hchanged => hserved owner ?_⟩
    rw [run_append] at hchanged
    exact mem_offered_of_changed hchanged
  · have hactive : start.consumer.activity ≠ .stopped := by simp [start, of, Consumer.idle]
    exact fun fetch => settles fetch (not_stopped_run halive hactive)

/-- The only group of an owner is deleted while the owner is in a batch that is done, but was not
looked up.  The key is accepted once more, and looked up in this batch and in the next one, though
neither look-up finds the source. -/
theorem delivered_of_run_of_pending_key :
    let group : Subordinate :=
      ⟨"ConsumerGroup", some "ns", some "group", none, [⟨"KafkaSource", "a"⟩]⟩
    let gone : ResourceId → Lookup := fun _ => .absent
    let broken : ResourceId → Lookup := fun _ => .failed "timed out"
    let earlier : List Step := [.operating (.applying group), .consuming gone, .consuming gone]
    let step : Step := .operating (.deleting "ConsumerGroup" ⟨"ns", "group"⟩)
    let between : List Step := [.consuming gone, .consuming gone, .consuming gone]
    let later : List Step :=
      .consuming gone :: (between ++ [.consuming broken, .consuming broken])
    let start : Service := of (.ofKind "KafkaSource") ⟨some 1, [], false⟩
    let service := start.run (earlier ++ step :: later)
    service.index.queue.closed = false ∧
      (start.run earlier).consumer.activity.pending = [⟨"ns", "a"⟩] ∧
      (start.run earlier).accepted step = [⟨"ns", "a"⟩] ∧
      (start.run (earlier ++ [step])).LooksUpIn later ⟨"ns", "a"⟩ ∧
      (∃ before fetch others, between = before ++ .consuming fetch :: others ∧
        (start.run (earlier ++ [step] ++ .consuming gone :: before)).index.queue.items ≠ []) ∧
      service.consumer.deeds =
        [.fetching ⟨"ns", "a"⟩,
          .reporting ⟨.debug, "Source no longer exists", [], [("ns", "ns"), ("name", "a")]⟩,
          .fetching ⟨"ns", "a"⟩,
          .reporting
            ⟨.warn, "Failed to fetch source", [("error", "timed out")],
              [("ns", "ns"), ("name", "a")]⟩] := by
  intro group gone broken earlier step between later start service
  -- the steps are named, since their run is a large term to unify with another one
  obtain ⟨steps, hsteps⟩ : ∃ steps, steps = earlier ++ step :: later := ⟨_, rfl⟩
  obtain ⟨halive, hidle, hempty, hdropped⟩ :
      (start.run steps).index.queue.closed = false ∧
        (start.run steps).consumer.activity = .waiting ∧ (start.run steps).index.queue.items = [] ∧
        (start.run steps).index.metrics.dropped.count (OwnerKind.ofKind "KafkaSource").text = 0 := by
    rw [hsteps]
    decide +kernel
  have hfirst : (start.run (earlier ++ [step])).LooksUp gone ⟨"ns", "a"⟩ :=
    looksUp_iff.mpr ⟨[], by decide +kernel⟩
  have hsecond : (start.run (earlier ++ [step] ++ .consuming gone :: between)).LooksUp broken
      ⟨"ns", "a"⟩ :=
    looksUp_iff.mpr ⟨[], by decide +kernel⟩
  obtain ⟨-, hbatches, -, -, hserved, -⟩ :=
    delivered_of_run (.ofKind "KafkaSource") ⟨some 1, [], false⟩ steps halive
  refine ⟨by decide +kernel, by decide +kernel, by decide +kernel, ?_, ?_, by decide +kernel⟩
  · refine (hserved hidle hempty hdropped earlier step later hsteps).1 ⟨"ns", "a"⟩ ?_
    decide +kernel
  · obtain ⟨before, fetch, others, hbetween, -, hitems⟩ :=
      hbatches (earlier ++ [step]) gone between broken [.consuming broken] ⟨"ns", "a"⟩
        (hsteps.trans (List.append_cons earlier step later)) hfirst hsecond
    exact ⟨before, fetch, others, hbetween, hitems⟩

end StatusRouter.Service
