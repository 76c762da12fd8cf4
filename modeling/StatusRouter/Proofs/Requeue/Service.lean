import StatusRouter.Proofs.Requeue.Round
import StatusRouter.Proofs.Routing.Edit
import StatusRouter.Proofs.Routing.Notice

/-!
# The index and the consumer side by side

An index performs operations and puts the keys that they offer in its queue.  Meanwhile a consumer
takes steps on the same queue: it receives a key, gathers keys for a batch until it finds the queue
empty, and looks up the keys of the batch.  A service takes all of these steps one at a time and in any
order, and at each step of the consumer the cluster may answer what it likes.

What a step can do is said once (`Moves`).  That a key is looked up is read off what the consumer does:
it asks for the source of the key and reports the answer (`LooksUp`).  A key that waits in the queue, or
in a batch, waits there until it is looked up, whatever steps are taken, unless the receiver goes away
(`mem_outstanding_run`).  A consumer whose steps nothing comes between does what it does on its own
(`run_consuming`), so it comes to wait at an empty queue (`settles`).
-/

namespace StatusRouter

/-- The keys of the batch that were not looked up. -/
def Activity.pending : Activity → List ResourceId
  | gathering batch => batch
  | lookingUp rest => rest
  | waiting | stopped => []

/-- An index, and the consumer of its queue. -/
structure Service where
  index : Index
  consumer : Consumer

namespace Service

/-- What happens in a service. -/
inductive Step where
  | operating (operation : Index.Operation)
  /-- The consumer takes a step, in which the cluster answers with `fetch`. -/
  | consuming (fetch : ResourceId → Lookup)
  /-- The receiver goes away, and the consumer with it. -/
  | closing

/-- A service whose index has no records and whose consumer waits. -/
def of (ownerKind : OwnerKind) (queue : WorkQueue) : Service :=
  ⟨.of ownerKind queue, .idle⟩

/-- The service after one more step.  The index is always there to send keys. -/
def next (service : Service) : Step → Service
  | .operating operation => { service with index := (service.index.perform operation).index }
  | .consuming fetch =>
    let (consumer, queue) := Consumer.next fetch true (service.consumer, service.index.queue)
    ⟨{ service.index with queue }, consumer⟩
  | .closing =>
    { index := { service.index with queue := service.index.queue.close }
      consumer := { service.consumer with activity := .stopped } }

/-- The service after steps. -/
def run (service : Service) (steps : List Step) : Service :=
  steps.foldl next service

/-- The keys that a step offers to the queue. -/
def offered (service : Service) : Step → List ResourceId
  | .operating operation => operation.offered service.index
  | _ => []

/-- The keys that a step puts in the queue. -/
def accepted (service : Service) : Step → List ResourceId
  | .operating operation =>
    (service.index.perform operation).index.queue.items.drop service.index.queue.items.length
  | _ => []

/-- A step of the consumer looks up a key: the consumer asks for the source of the key, and reports the
answer by one event in the span of the key. -/
def LooksUp (service : Service) (fetch : ResourceId → Lookup) (id : ResourceId) : Prop :=
  ∃ event, (fetch id).Reports id event ∧
    (service.next (.consuming fetch)).consumer.deeds =
      service.consumer.deeds ++ [.fetching id, .reporting event]

/-- A key is looked up at one of the steps. -/
def LooksUpIn (service : Service) (steps : List Step) (id : ResourceId) : Prop :=
  ∃ before fetch after, steps = before ++ .consuming fetch :: after ∧
    (service.run before).LooksUp fetch id

/-- The keys that are to be looked up: those in the queue, and those of the batch. -/
def outstanding (service : Service) : List ResourceId :=
  service.index.queue.items ++ service.consumer.activity.pending

variable {service after : Service} {step : Step} {steps : List Step} {id : ResourceId}
  {fetch : ResourceId → Lookup}

@[simp] theorem run_nil : service.run [] = service := rfl

@[simp] theorem run_cons : service.run (step :: steps) = (service.next step).run steps := rfl

theorem run_append (later : List Step) :
    service.run (steps ++ later) = (service.run steps).run later :=
  List.foldl_append

/-! ## Single steps -/

/-- What a step can do. -/
inductive Moves : Service → Step → Service → Prop where
  | operates {service : Service} (operation : Index.Operation) :
    Moves service (.operating operation)
      { service with index := (service.index.perform operation).index }
  /-- The first key in the queue begins a batch. -/
  | begins {index : Index} {deeds : List Deed} {id : ResourceId} {rest : List ResourceId}
    (fetch : ResourceId → Lookup) (hitems : index.queue.items = id :: rest) :
    Moves ⟨index, ⟨.waiting, deeds⟩⟩ (.consuming fetch)
      ⟨{ index with queue := { index.queue with items := rest } }, ⟨.gathering [id], deeds⟩⟩
  | gathers {index : Index} {deeds : List Deed} {id : ResourceId} {rest batch : List ResourceId}
    (fetch : ResourceId → Lookup) (hitems : index.queue.items = id :: rest) :
    Moves ⟨index, ⟨.gathering batch, deeds⟩⟩ (.consuming fetch)
      ⟨{ index with queue := { index.queue with items := rest } },
        ⟨.gathering (ResourceId.insertOnce id batch), deeds⟩⟩
  /-- The batch is done when the queue is empty. -/
  | finishes {index : Index} {deeds : List Deed} {batch : List ResourceId}
    (fetch : ResourceId → Lookup) (hitems : index.queue.items = []) :
    Moves ⟨index, ⟨.gathering batch, deeds⟩⟩ (.consuming fetch) ⟨index, ⟨.lookingUp batch, deeds⟩⟩
  | looksUp {index : Index} {deeds : List Deed} {id : ResourceId} {rest : List ResourceId}
    (fetch : ResourceId → Lookup) :
    Moves ⟨index, ⟨.lookingUp (id :: rest), deeds⟩⟩ (.consuming fetch)
      ⟨index, ⟨.lookingUp rest, deeds ++ Consumer.observe fetch id⟩⟩
  /-- No key is left of the batch. -/
  | rests {index : Index} {deeds : List Deed} (fetch : ResourceId → Lookup) :
    Moves ⟨index, ⟨.lookingUp [], deeds⟩⟩ (.consuming fetch) ⟨index, ⟨.waiting, deeds⟩⟩
  /-- The consumer waits, but no key does, or it has stopped. -/
  | stays {service : Service} (fetch : ResourceId → Lookup)
    (hidle : service.consumer.activity.pending = []) :
    Moves service (.consuming fetch) service
  | closes {service : Service} :
    Moves service .closing
      { index := { service.index with queue := service.index.queue.close }
        consumer := { service.consumer with activity := .stopped } }

theorem moves_next (service : Service) (step : Step) : Moves service step (service.next step) := by
  cases step with
  | operating operation => exact .operates operation
  | closing => exact .closes
  | consuming fetch =>
      obtain ⟨index, activity, deeds⟩ := service
      rcases activity with _ | batch | ⟨_ | ⟨id, rest⟩⟩ | _
      · cases hitems : index.queue.items with
        | nil => simpa [next, Consumer.next, WorkQueue.receive, hitems] using .stays fetch rfl
        | cons id rest =>
            simpa [next, Consumer.next, WorkQueue.receive, hitems] using .begins fetch hitems
      · cases hitems : index.queue.items with
        | nil => simpa [next, Consumer.next, WorkQueue.receive, hitems] using .finishes fetch hitems
        | cons id rest =>
            simpa [next, Consumer.next, WorkQueue.receive, hitems] using .gathers fetch hitems
      · exact .rests fetch
      · exact .looksUp fetch
      · exact .stays fetch rfl

/-- A step looks up the key that is first of those that are left of the batch. -/
theorem looksUp_iff :
    service.LooksUp fetch id ↔ ∃ rest, service.consumer.activity = .lookingUp (id :: rest) := by
  constructor
  · rintro ⟨event, -, hdeeds⟩
    have hmove := moves_next service (.consuming fetch)
    generalize service.next (.consuming fetch) = after at hdeeds hmove
    cases hmove with
    | looksUp =>
        obtain ⟨rfl, -⟩ : _ = id ∧ _ := by simpa [Consumer.observe] using hdeeds
        exact ⟨_, rfl⟩
    | begins | gathers | finishes | rests | stays => simp at hdeeds
  · rintro ⟨rest, hactivity⟩
    obtain ⟨index, activity, deeds⟩ := service
    obtain rfl : activity = .lookingUp (id :: rest) := hactivity
    exact ⟨_, (fetch id).reports_event id, rfl⟩

/-- A step that looks up a key is taken while the key is first of those that are left. -/
theorem LooksUp.eq (h : service.LooksUp fetch id) :
    ∃ index rest deeds, service = ⟨index, ⟨.lookingUp (id :: rest), deeds⟩⟩ := by
  obtain ⟨rest, hactivity⟩ := looksUp_iff.mp h
  obtain ⟨index, activity, deeds⟩ := service
  obtain rfl : activity = .lookingUp (id :: rest) := hactivity
  exact ⟨index, rest, deeds, rfl⟩

theorem queue_perform (index : Index) (operation : Index.Operation) :
    (index.perform operation).index.queue = index.queue.extended (operation.offered index) :=
  (index.edited_perform operation).queue

/-- An operation puts the keys in the queue that the queue admits of those that are offered. -/
theorem accepted_operating (operation : Index.Operation) :
    service.accepted (.operating operation) =
      service.index.queue.admitted (operation.offered service.index) := by
  rw [accepted, queue_perform, WorkQueue.extended]
  exact List.drop_left

theorem Moves.closed (h : Moves service step after) (hclosed : service.index.queue.closed = true) :
    after.index.queue.closed = true := by
  cases h with
  | operates operation =>
      rw [queue_perform]
      exact hclosed
  | closes => rfl
  | begins | gathers | finishes | looksUp | rests | stays => exact hclosed

/-- A consumer stops only with the receiver. -/
theorem Moves.not_stopped (h : Moves service step after)
    (halive : after.index.queue.closed = false) (hactive : service.consumer.activity ≠ .stopped) :
    after.consumer.activity ≠ .stopped := by
  cases h with
  | operates | stays => exact hactive
  | closes => simp [WorkQueue.close] at halive
  | begins | gathers | finishes | looksUp | rests => simp

/-- A key that is to be looked up is so after a step, unless the step looks it up. -/
theorem Moves.mem_outstanding (h : Moves service step after)
    (halive : after.index.queue.closed = false) (hid : id ∈ service.outstanding) :
    id ∈ after.outstanding ∨ ∃ fetch, step = .consuming fetch ∧ service.LooksUp fetch id := by
  rw [outstanding, List.mem_append] at hid ⊢
  cases h with
  | operates operation =>
      -- an operation only adds keys behind those that are there
      refine Or.inl (hid.imp_left fun hqueue => ?_)
      rw [queue_perform]
      exact List.mem_append_left _ hqueue
  | begins fetch hitems =>
      -- the key leaves the queue for the batch
      refine Or.inl ?_
      simpa [Activity.pending, hitems, or_comm] using hid
  | gathers fetch hitems =>
      refine Or.inl ?_
      simpa [Activity.pending, hitems, or_assoc, or_left_comm] using hid
  | finishes fetch hitems =>
      refine Or.inl ?_
      simpa [Activity.pending, hitems] using hid
  | @looksUp index deeds first rest fetch =>
      by_cases hfirst : id = first
      · subst hfirst
        exact Or.inr ⟨fetch, rfl, looksUp_iff.mpr ⟨rest, rfl⟩⟩
      · refine Or.inl ?_
        simpa [Activity.pending, hfirst] using hid
  | rests => exact Or.inl hid
  | stays => exact Or.inl hid
  | closes => simp [WorkQueue.close] at halive

/-- The keys that an operation puts in the queue are to be looked up. -/
theorem mem_outstanding_of_accepted (hid : id ∈ service.accepted step) :
    id ∈ (service.next step).outstanding := by
  cases step with
  | operating operation =>
      rw [accepted_operating] at hid
      rw [outstanding, next, queue_perform, WorkQueue.extended]
      exact List.mem_append_left _ (List.mem_append_right _ hid)
  | consuming fetch | closing => simp [accepted] at hid

/-! ## Runs -/

theorem alive_of_run (halive : (service.run steps).index.queue.closed = false) :
    service.index.queue.closed = false := by
  induction steps generalizing service with
  | nil => exact halive
  | cons step steps ih =>
      by_contra hclosed
      have hnext : (service.next step).index.queue.closed = true :=
        (moves_next service step).closed (Bool.eq_true_of_not_eq_false hclosed)
      exact Bool.false_ne_true ((ih halive).symm.trans hnext)

theorem LooksUpIn.cons (h : (service.next step).LooksUpIn steps id) :
    service.LooksUpIn (step :: steps) id := by
  obtain ⟨before, fetch, after, rfl, hlooks⟩ := h
  exact ⟨step :: before, fetch, after, rfl, hlooks⟩

theorem mem_outstanding_run (halive : (service.run steps).index.queue.closed = false)
    (hid : id ∈ service.outstanding) :
    id ∈ (service.run steps).outstanding ∨ service.LooksUpIn steps id := by
  -- the induction is on the first step, since the look-ups are those of the steps that follow
  induction steps generalizing service with
  | nil => exact Or.inl hid
  | cons step steps ih =>
      rcases (moves_next service step).mem_outstanding (alive_of_run halive) hid with
        hnext | ⟨fetch, rfl, hlooks⟩
      · exact (ih halive hnext).imp_right LooksUpIn.cons
      · exact Or.inr ⟨[], fetch, steps, rfl, hlooks⟩

theorem not_stopped_run (halive : (service.run steps).index.queue.closed = false)
    (hactive : service.consumer.activity ≠ .stopped) :
    (service.run steps).consumer.activity ≠ .stopped := by
  induction steps generalizing service with
  | nil => exact hactive
  | cons step steps ih =>
      exact ih halive ((moves_next service step).not_stopped (alive_of_run halive) hactive)

/-! ## The consumer on its own -/

/-- While nothing else happens, the consumer of a service takes the steps that it takes alone with the
queue, and the rest of the index is left as it is. -/
theorem run_consuming (fetch : ResourceId → Lookup) (count : Nat) :
    service.run (List.replicate count (.consuming fetch)) =
      let alone := (Consumer.next fetch true)^[count] (service.consumer, service.index.queue)
      ⟨{ service.index with queue := alone.2 }, alone.1⟩ := by
  induction count generalizing service with
  | zero => rfl
  | succ count ih => exact ih

/-- If nothing else happens, a consumer that did not stop comes to wait for a key at an empty queue. -/
theorem settles (fetch : ResourceId → Lookup) (hactive : service.consumer.activity ≠ .stopped) :
    ∃ count, let settled := service.run (List.replicate count (.consuming fetch))
      settled.consumer.activity = .waiting ∧
        settled.index = { service.index with queue := { service.index.queue with items := [] } } := by
  obtain ⟨deeds, count, hcount⟩ :=
    Consumer.leads_to_waiting fetch true service.index.queue hactive
  refine ⟨count, ?_⟩
  rw [run_consuming, hcount]
  exact ⟨rfl, rfl⟩

end Service

end StatusRouter
