import StatusRouter.Proofs.Condition.Run
import StatusRouter.Proofs.Source.Call

/-!
# Sessions

The status of a source is kept over many passes, and the set in effect may be replaced at any time,
also while a pass is under way.  A session is the state of all this: the conditions that passes
begin with, the manager of the pass that is under way, and the status.  It follows events in any
order: a pass begins, the set is replaced, a call is made.

Of all this the conditions of the status see only the operations that the calls come to, each under
the set that its manager loaded.  `conditions_run` says so: they are the conditions after a run of
steps in the sense of `ConditionManager.run`.
-/

namespace StatusRouter

/-- What happens while the status of a source is kept. -/
inductive SourceEvent where
  | beginning (now : Instant)
  | replacing (set : ConditionSet)
  | calling (call : SourceCall)
  deriving DecidableEq

/-- How the status of a source is kept, the manager of the pass under way, and the status. -/
structure SourceSession where
  conditions : SourceConditions
  manager : SourceManager
  status : KafkaSourceStatus
  deriving DecidableEq

namespace SourceSession

/-- A session whose first pass begins. -/
def start (conditions : SourceConditions) (now : Instant) (status : KafkaSourceStatus) :
    SourceSession :=
  ⟨conditions, conditions.manage now, status⟩

/-- Replaces the set in effect. -/
def replaceSet (session : SourceSession) (set : ConditionSet) : SourceSession :=
  { session with
    conditions := { session.conditions with shared := (session.conditions.shared.replace set).1 } }

/-- The session after an event. -/
def follow (session : SourceSession) : SourceEvent → SourceSession
  | .beginning now => start session.conditions now session.status
  | .replacing set => session.replaceSet set
  | .calling call => { session with status := session.manager.perform session.status call }

/-- The session after events. -/
def run (session : SourceSession) (events : List SourceEvent) : SourceSession :=
  events.foldl follow session

variable (session : SourceSession)

@[simp] theorem run_nil : session.run [] = session := rfl

@[simp] theorem run_cons (event : SourceEvent) (events : List SourceEvent) :
    session.run (event :: events) = (session.follow event).run events := rfl

theorem run_append (earlier later : List SourceEvent) :
    session.run (earlier ++ later) = (session.run earlier).run later :=
  List.foldl_append

/-! ## What the conditions see -/

/-- The step on the conditions that an event comes to, if any. -/
def step? : SourceEvent → Option ConditionManager.Step
  | .calling call =>
    (call.operation? session.manager.availableByDefault).map (.mk session.manager.conditions)
  | _ => none

/-- The steps on the conditions that events come to. -/
def steps (session : SourceSession) : List SourceEvent → List ConditionManager.Step
  | [] => []
  | event :: rest => (session.step? event).toList ++ (session.follow event).steps rest

theorem steps_append (earlier later : List SourceEvent) :
    session.steps (earlier ++ later) = session.steps earlier ++ (session.run earlier).steps later := by
  induction earlier generalizing session with
  | nil => rfl
  | cons event earlier ih => rw [List.cons_append, steps, ih, steps, run_cons, List.append_assoc]

theorem conditions_follow (event : SourceEvent) :
    (session.follow event).status.conditions =
      ConditionManager.run session.status.conditions (session.step? event).toList := by
  cases event with
  | beginning now => rfl
  | replacing set => rfl
  | calling call =>
      rw [follow, SourceManager.conditions_perform, step?]
      cases call.operation? session.manager.availableByDefault <;> rfl

theorem conditions_run (events : List SourceEvent) :
    (session.run events).status.conditions =
      ConditionManager.run session.status.conditions (session.steps events) := by
  induction events generalizing session with
  | nil => rfl
  | cons event events ih =>
      rw [run_cons, ih, steps, ConditionManager.run_append, conditions_follow]

/-! ## The pass under way -/

theorem manager_run_of_no_beginning {events : List SourceEvent}
    (hevents : ∀ now, .beginning now ∉ events) : (session.run events).manager = session.manager := by
  induction events generalizing session with
  | nil => rfl
  | cons event events ih =>
      have hrest : ∀ now, .beginning now ∉ events :=
        fun now hmem => hevents now (List.mem_cons_of_mem event hmem)
      rw [run_cons, ih _ hrest]
      cases event with
      | beginning now => exact absurd List.mem_cons_self (hevents now)
      | replacing set => rfl
      | calling call => rfl

/-- Until another pass begins, all steps are those of the manager. -/
theorem manager_of_mem_steps {events : List SourceEvent} (hevents : ∀ now, .beginning now ∉ events) :
    ∀ step ∈ session.steps events, step.manager = session.manager.conditions := by
  induction events generalizing session with
  | nil => simp [steps]
  | cons event events ih =>
      have hrest : ∀ now, .beginning now ∉ events :=
        fun now hmem => hevents now (List.mem_cons_of_mem event hmem)
      have hfirst : ∀ now, .beginning now ∉ [event] := fun now hmem =>
        hevents now (List.mem_cons.mpr (Or.inl (List.mem_singleton.mp hmem)))
      have hmanager : (session.follow event).manager = session.manager :=
        session.manager_run_of_no_beginning hfirst
      intro step hstep
      rcases List.mem_append.mp hstep with hmem | hmem
      · cases event with
        | calling call =>
            obtain ⟨operation, -, rfl⟩ := Option.map_eq_some_iff.mp (Option.mem_toList.mp hmem)
            rfl
        | _ => simp [step?] at hmem
      · rw [ih _ hrest step hmem, hmanager]

end SourceSession

end StatusRouter
