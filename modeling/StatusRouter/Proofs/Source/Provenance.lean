import StatusRouter.Proofs.Source.Session

/-!
# Where the copied fields come from

Next to its conditions, the status of a source holds what the calls copied into it: the address of
the sink, the number of consumers, and the claims.  Each of these comes from one call, the last that
had anything to copy there, so what two calls found is never mixed; and if no call had, it is still
what it was at first (`fields_of_run`).

The calls here are made by managers of any kind, so the passes may differ in their sets and times,
and in what they make of a deployment that does not say whether it is available.  A session is a run
of such calls (`SourceSession.status_run`).
-/

namespace StatusRouter

/-- A call together with the manager of the pass that makes it. -/
structure SourceStep where
  manager : SourceManager
  call : SourceCall
  deriving DecidableEq

namespace SourceStep

/-- The status after a step. -/
def perform (status : KafkaSourceStatus) (step : SourceStep) : KafkaSourceStatus :=
  step.manager.perform status step.call

/-- The status after steps. -/
def run (status : KafkaSourceStatus) (steps : List SourceStep) : KafkaSourceStatus :=
  steps.foldl perform status

end SourceStep

/-! ## Sessions -/

namespace SourceSession

variable (session : SourceSession)

/-- The calls among events, each with the manager of the pass that is under way. -/
def calls (session : SourceSession) : List SourceEvent → List SourceStep
  | [] => []
  | .calling call :: rest =>
    ⟨session.manager, call⟩ :: (session.follow (.calling call)).calls rest
  | event :: rest => (session.follow event).calls rest

/-- Beginning a pass and replacing the set leave the status alone. -/
theorem status_run (events : List SourceEvent) :
    (session.run events).status = SourceStep.run session.status (session.calls events) := by
  induction events generalizing session with
  | nil => rfl
  | cons event events ih =>
      rw [run_cons, ih]
      cases event <;> rfl

end SourceSession

namespace SourceStep

/-! ## What a step copies -/

/-- The address that a step copies: one with a URL that is not empty. -/
def address? (step : SourceStep) : Option Addressable :=
  match step.call with
  | .sink address => if address.url = none ∨ address.url = some "" then none else some address
  | _ => none

/-- The deployment whose replicas a step copies: one that is available. -/
def deployment? (step : SourceStep) : Option Deployment :=
  match step.call with
  | .deployment found =>
    if (found.status.getD .empty).isAvailable step.manager.availableByDefault then some found
    else none
  | _ => none

/-- The claims that a step copies. -/
def claims? (step : SourceStep) : Option String :=
  match step.call with
  | .claims summary => some summary
  | _ => none

/-- What a step looks at that may be copied: its call, unless that is one on the conditions alone,
and what its manager makes of a deployment that does not say whether it is available. -/
def finding? (step : SourceStep) : Option (Bool × SourceCall) :=
  match step.call with
  | .initializing => none
  | .outcome _ _ => none
  | call => some (step.manager.availableByDefault, call)

variable {status : KafkaSourceStatus} {steps : List SourceStep}

@[simp] theorem run_nil : run status [] = status := rfl

@[simp] theorem run_cons (step : SourceStep) :
    run status (step :: steps) = run (step.perform status) steps := rfl

@[simp] theorem run_append_singleton (step : SourceStep) :
    run status (steps ++ [step]) = step.perform (run status steps) :=
  List.foldl_append

/-- What is read of the status after a run, if some of the steps give it and the others leave it: it
is what the last of these steps gives. -/
theorem read_run {α β : Type} {read : KafkaSourceStatus → β} {given? : SourceStep → Option α}
    {value : α → β}
    (h : ∀ (status : KafkaSourceStatus) (step : SourceStep),
      read (step.perform status) = (given? step).elim (read status) value) :
    read (run status steps) = (steps.filterMap given?).getLast?.elim (read status) value := by
  induction steps using List.reverseRecOn with
  | nil => rfl
  | append_singleton steps last ih =>
      rw [run_append_singleton, h, List.filterMap_append, List.filterMap_cons, List.filterMap_nil]
      cases hgiven : given? last with
      | none => rw [List.append_nil, Option.elim_none, ih]
      | some a => rw [List.getLast?_concat, Option.elim_some, Option.elim_some]

/-! ## The fields -/

/-- The replicas that a deployment reports. -/
def replicasOf (found : Deployment) : Int32 := (found.status.getD .empty).replicas.getD 0

/-- A call copies what it has to copy, each field by itself. -/
theorem copy_eq (status : KafkaSourceStatus) (step : SourceStep) :
    step.call.copy step.manager.availableByDefault status =
      { status with
        sinkUri := step.address?.elim status.sinkUri Addressable.url
        sinkCaCerts := step.address?.elim status.sinkCaCerts Addressable.caCerts
        sinkAudience := step.address?.elim status.sinkAudience Addressable.audience
        consumers := step.deployment?.elim status.consumers replicasOf
        claims := step.claims?.elim status.claims id } := by
  obtain ⟨manager, call⟩ := step
  cases call with
  | sink address =>
      simp only [SourceCall.copy, address?]
      cases hurl : address.resolvedUrl? with
      | none =>
          rw [if_pos (Addressable.resolvedUrl?_eq_none_iff.mp hurl)]
          rfl
      | some url =>
          obtain ⟨hsome, hne⟩ := Addressable.resolvedUrl?_eq_some_iff.mp hurl
          rw [if_neg (by simp [hsome, hne])]
          simp only [Option.elim_some, hsome]
          rfl
  | deployment found =>
      simp only [SourceCall.copy, deployment?]
      split <;> rfl
  | _ => rfl

theorem perform_eq (status : KafkaSourceStatus) (step : SourceStep) :
    step.perform status =
      { status with
        conditions := (step.perform status).conditions
        sinkUri := step.address?.elim status.sinkUri Addressable.url
        sinkCaCerts := step.address?.elim status.sinkCaCerts Addressable.caCerts
        sinkAudience := step.address?.elim status.sinkAudience Addressable.audience
        consumers := step.deployment?.elim status.consumers replicasOf
        claims := step.claims?.elim status.claims id } := by
  rw [perform, SourceManager.perform_eq, copy_eq]
  rfl

/-- Where the status says that the sink is. -/
def sinkOf (status : KafkaSourceStatus) : Option String × Option String × Option String :=
  (status.sinkUri, status.sinkCaCerts, status.sinkAudience)

/-- The address as the status says it. -/
def addressOf (address : Addressable) : Option String × Option String × Option String :=
  (address.url, address.caCerts, address.audience)

theorem sinkOf_run :
    sinkOf (run status steps) =
      (steps.filterMap address?).getLast?.elim (sinkOf status) addressOf := by
  refine read_run fun status step => ?_
  rw [perform_eq]
  cases step.address? <;> rfl

theorem consumers_run :
    (run status steps).consumers =
      (steps.filterMap deployment?).getLast?.elim status.consumers replicasOf := by
  refine read_run fun status step => ?_
  rw [perform_eq]

theorem claims_run :
    (run status steps).claims = (steps.filterMap claims?).getLast?.elim status.claims id := by
  refine read_run fun status step => ?_
  rw [perform_eq]

theorem observedGeneration_run :
    (run status steps).observedGeneration = status.observedGeneration :=
  List.foldlRecOn steps perform (motive := fun reached =>
    reached.observedGeneration = status.observedGeneration) rfl fun _ h step _ => by
      rw [perform_eq]
      exact h

/-! ## What the fields depend on -/

/-- The status without its conditions. -/
def withoutConditions (status : KafkaSourceStatus) : KafkaSourceStatus :=
  { status with conditions := [] }

theorem withoutConditions_run :
    withoutConditions (run status steps) =
      (steps.filterMap finding?).foldl (fun status finding => finding.2.copy finding.1 status)
        (withoutConditions status) := by
  induction steps generalizing status with
  | nil => rfl
  | cons step steps ih =>
      obtain ⟨manager, call⟩ := step
      have hstep : withoutConditions (perform status ⟨manager, call⟩) =
          call.copy manager.availableByDefault (withoutConditions status) := by
        rw [perform, SourceManager.perform_eq]
        exact (SourceCall.copy_onConditions (fun _ => []) status call).symm
      rw [run_cons, ih, hstep, List.filterMap_cons]
      -- the calls that are left out copy nothing
      cases call <;> rfl

/-- After any calls by any managers, the sink of the status is the address of the last call that
found one with a URL, all three parts of it, or what it was at first if no call did; the consumers
are the replicas of the last deployment that its manager found to be available, and the claims are
the last ones, each in the same way; and the generation is the one it was at first.  Any other calls
by other managers with the same findings leave the same status, but for the conditions.  So it is for
the calls of a session, whatever passes make them and whatever sets are put into effect meanwhile. -/
theorem fields_of_run (status : KafkaSourceStatus) (steps : List SourceStep) :
    let reached := run status steps
    (reached.sinkUri, reached.sinkCaCerts, reached.sinkAudience) =
        (steps.filterMap address?).getLast?.elim
          (status.sinkUri, status.sinkCaCerts, status.sinkAudience)
          (fun address => (address.url, address.caCerts, address.audience)) ∧
      reached.consumers = (steps.filterMap deployment?).getLast?.elim status.consumers
        (fun found => (found.status.getD .empty).replicas.getD 0) ∧
      reached.claims = (steps.filterMap claims?).getLast?.getD status.claims ∧
      reached.observedGeneration = status.observedGeneration ∧
      (∀ others, others.filterMap finding? = steps.filterMap finding? →
        run status others = { reached with conditions := (run status others).conditions }) ∧
      ∀ (session : SourceSession) (events : List SourceEvent), session.status = status →
        session.calls events = steps → (session.run events).status = reached := by
  intro reached
  refine ⟨sinkOf_run, consumers_run, ?_, observedGeneration_run, ?_, ?_⟩
  · rw [show reached.claims = _ from claims_run]
    cases (steps.filterMap claims?).getLast? <;> rfl
  · intro others hfindings
    have hsame : withoutConditions (run status others) = withoutConditions reached := by
      rw [withoutConditions_run, withoutConditions_run, hfindings]
    exact congrArg (fun left => { left with conditions := (run status others).conditions }) hsame
  · rintro session events rfl rfl
    exact session.status_run events

/-- A second address follows the first, and an empty one and a sink that is missing follow them; a
deployment that is not available follows one that says nothing, under a manager that takes it to be
available.  Other managers, and without the marks, leave the same fields. -/
theorem fields_of_run_of_two_addresses :
    let hopeful : SourceManager := ⟨⟨SourceCondition.set, ConditionManager.exampleTime 10⟩, true⟩
    let strict : SourceManager := ⟨⟨.batch [], ConditionManager.exampleTime 5⟩, false⟩
    let first : Addressable := ⟨none, some "http://first", some "first", some "first"⟩
    let second : Addressable := ⟨none, some "http://second", none, some "second"⟩
    let available : Deployment := ⟨some "reader", some ⟨some 3, none⟩⟩
    let unavailable : Deployment := ⟨some "reader", some ⟨some 7, none⟩⟩
    let steps : List SourceStep :=
      [⟨hopeful, .initializing⟩, ⟨hopeful, .sink first⟩, ⟨hopeful, .deployment available⟩,
        ⟨strict, .sink second⟩, ⟨strict, .sink ⟨none, some "", some "none", none⟩⟩,
        ⟨strict, .noSink "Missing" "No sink."⟩, ⟨strict, .deployment unavailable⟩]
    let others : List SourceStep :=
      [⟨⟨strict.conditions, true⟩, .sink first⟩, ⟨⟨strict.conditions, true⟩, .deployment available⟩,
        ⟨⟨hopeful.conditions, false⟩, .sink second⟩,
        ⟨⟨hopeful.conditions, false⟩, .sink ⟨none, some "", some "none", none⟩⟩,
        ⟨⟨hopeful.conditions, false⟩, .deployment unavailable⟩]
    let reached := run .empty steps
    (reached.sinkUri, reached.sinkCaCerts, reached.sinkAudience) =
        (some "http://second", none, some "second") ∧
      reached.consumers = 3 ∧ reached.claims = "" ∧
      others.filterMap finding? = steps.filterMap finding? ∧
      run .empty others = { reached with conditions := (run .empty others).conditions } := by
  intro hopeful strict first second available unavailable steps others reached
  obtain ⟨hsink, hconsumers, hclaims, -, hothers, -⟩ := fields_of_run .empty steps
  have hfindings : others.filterMap finding? = steps.filterMap finding? := by decide
  exact ⟨hsink, hconsumers, hclaims, hfindings, hothers others hfindings⟩

end SourceStep

end StatusRouter
