import StatusRouter.Proofs.Condition.Aggregate
import StatusRouter.Proofs.Source.Delegation
import StatusRouter.Proofs.Source.Provenance

/-!
# A ready source has a sink

The condition of the sink and the address of the sink are kept apart: the one is in the list of
conditions, which every call may change, and the other is copied into a field, which no call clears.
They are held together by an invariant of the status: if the sink counts as provided, then there is
an address, and nothing more is said of the sink (`SinkShown`).  Of the calls that a pass can make,
only one that found an address marks the sink as met, and it copies the address in the same call.

The invariant does not ask which sets were in effect, except that the condition of the sink was
never the aggregate, since an aggregate is met by deriving it.  So a source that is found ready
under a set that asks for the sink has an address (`hasSink_of_run`).
-/

namespace StatusRouter

open ConditionManager (Operation)
open SourceCondition (sinkProvided)

/-- A call that a pass can make. -/
def SourceCall.Possible (call : SourceCall) : Prop :=
  ∃ availableByDefault operation, ComesTo availableByDefault call operation

/-- There is an address of the sink, and it is not empty. -/
def KafkaSourceStatus.HasSink (status : KafkaSourceStatus) : Prop :=
  ∃ uri, status.sinkUri = some uri ∧ uri ≠ ""

/-- If the sink counts as provided, the status has its address, and gives no reason and no
message. -/
def SinkShown (status : KafkaSourceStatus) : Prop :=
  ∀ c, findCondition? sinkProvided status.conditions = some c → c.status = .met →
    status.HasSink ∧ c.outcome = .met

/-! ## The calls that mark the sink -/

namespace SourceCall

variable {call : SourceCall} {availableByDefault : Bool} {reason message : String}

/-- Of the marks that record an outcome as it was given, those of the sink say that there is none. -/
theorem eq_markFalse_of_mem_marks :
    ∀ mark ∈ marks reason message, mark.2.marked? = some sinkProvided →
      mark.2 = .markFalse sinkProvided reason message := by
  simp [marks, Operation.markTrue, Operation.markTrueWithReason, Operation.markFalse,
    Operation.markUnknown, Operation.marked?, sinkProvided, SourceCondition.deployed,
    SourceCondition.keyTypeCorrect, SourceCondition.connectionEstablished,
    SourceCondition.initialOffsetsCommitted, SourceCondition.oidcIdentityCreated]

theorem possible_of_mem_marks (reason message : String)
    (h : call ∈ (marks reason message).map Prod.fst) : call.Possible := by
  obtain ⟨⟨_, operation⟩, hmem, rfl⟩ := List.mem_map.mp h
  exact ⟨false, some operation, .recorded hmem⟩

/-- Only a call that found an address marks the sink as met, and it gives no words. -/
theorem Possible.exists_address {outcome : Outcome} (h : call.Possible)
    (hmarks : call.operation? availableByDefault = some (.marking sinkProvided outcome))
    (hmet : outcome.status = .met) :
    outcome = .met ∧ ∃ address url, call = .sink address ∧ address.resolvedUrl? = some url := by
  obtain ⟨_, _, hcomes⟩ := h
  cases hcomes with
  | initializing => simp [operation?] at hmarks
  | claims summary => simp [operation?] at hmarks
  | sink hurl hne =>
      have hresolved := Addressable.resolvedUrl?_eq_some_iff.mpr ⟨hurl, hne⟩
      refine ⟨?_, _, _, rfl, hresolved⟩
      simpa [operation?, hresolved, eq_comm] using hmarks
  | emptySink hurl =>
      have hresolved := Addressable.resolvedUrl?_eq_none_iff.mpr hurl
      have houtcome : SourceManager.sinkEmpty = outcome := by
        simpa [operation?, hresolved] using hmarks
      rw [← houtcome] at hmet
      cases hmet
  | available _ => simp [operation?, sinkProvided, SourceCondition.deployed] at hmarks
  | unavailable _ => simp [operation?, sinkProvided, SourceCondition.deployed] at hmarks
  | recorded hmem =>
      have hoperation := Option.some.inj ((operation?_of_mem_marks hmem).symm.trans hmarks)
      subst hoperation
      cases eq_markFalse_of_mem_marks _ hmem rfl
      cases hmet

end SourceCall

/-! ## Steps -/

/-- A condition other than the aggregate that is met after an operation was met before, or the
operation marked it so. -/
theorem ConditionManager.met_of_perform (manager : ConditionManager) {conditions : List Condition}
    {operation : Operation} {type : ConditionType} {c : Condition}
    (hhappy : type ≠ manager.set.happy)
    (hc : findCondition? type (manager.perform conditions operation) = some c)
    (hmet : c.status = .met) :
    findCondition? type conditions = some c ∨ operation = .marking type c.outcome := by
  cases operation with
  | initializing =>
      rw [perform, manager.findCondition?_initializeConditions hhappy] at hc
      cases hbefore : findCondition? type conditions with
      | some d => exact Or.inl (by simpa [hbefore] using hc)
      | none =>
          -- a condition that is added is not met
          rw [hbefore, Option.none_or, Option.ite_none_right_eq_some] at hc
          obtain rfl := Option.some.inj hc.2
          cases hmet
  | marking marked outcome =>
      rw [perform, manager.findCondition?_mark hhappy] at hc
      split at hc
      · rename_i hmarked
        obtain rfl := Option.some.inj hc
        exact Or.inr (by rw [written_outcome, hmarked])
      · exact Or.inl hc

namespace SourceStep

variable {status : KafkaSourceStatus} {step : SourceStep} {steps : List SourceStep}

theorem address?_eq_some_iff {address : Addressable} :
    step.address? = some address ↔
      step.call = .sink address ∧ ∃ url, address.url = some url ∧ url ≠ "" := by
  obtain ⟨manager, call⟩ := step
  cases call with
  | sink found =>
      simp only [address?, Option.ite_none_left_eq_some, Option.some.injEq, SourceCall.sink.injEq,
        not_or]
      rw [and_comm, and_congr_right_iff]
      rintro rfl
      cases found.url <;> simp
  | _ => simp [address?]

/-- An address that a call copies is there, and no call clears one. -/
theorem hasSink_perform (h : status.HasSink ∨ step.address? ≠ none) :
    (step.perform status).HasSink := by
  rw [KafkaSourceStatus.HasSink, perform_eq]
  cases haddress : step.address? with
  | none => exact h.resolve_right fun hcopies => hcopies haddress
  | some address => exact (address?_eq_some_iff.mp haddress).2

/-- A call that a pass can make keeps the condition of the sink and the address together, unless the
condition is the aggregate. -/
theorem sinkShown_perform (h : SinkShown status) (hpossible : step.call.Possible)
    (hhappy : step.manager.conditions.set.happy ≠ sinkProvided) :
    SinkShown (step.perform status) := by
  intro c hc hmet
  rw [perform, SourceManager.conditions_perform] at hc
  have hkept : findCondition? sinkProvided status.conditions = some c →
      (step.perform status).HasSink ∧ c.outcome = .met := by
    intro hbefore
    obtain ⟨hsink, houtcome⟩ := h c hbefore hmet
    exact ⟨hasSink_perform (Or.inl hsink), houtcome⟩
  cases hoperation : step.call.operation? step.manager.availableByDefault with
  | none =>
      rw [hoperation, ConditionManager.perform?] at hc
      exact hkept hc
  | some operation =>
      rw [hoperation, ConditionManager.perform?] at hc
      rcases step.manager.conditions.met_of_perform hhappy.symm hc hmet with hbefore | rfl
      · exact hkept hbefore
      · obtain ⟨houtcome, address, url, hcall, hurl⟩ := hpossible.exists_address hoperation hmet
        have hcopies : step.address? = some address :=
          address?_eq_some_iff.mpr ⟨hcall, url, Addressable.resolvedUrl?_eq_some_iff.mp hurl⟩
        exact ⟨hasSink_perform (Or.inr (by simp [hcopies])), houtcome⟩

/-! ## Runs -/

/-- The step on the conditions that a step comes to, if its call initializes or marks them. -/
def conditionStep? (step : SourceStep) : Option ConditionManager.Step :=
  (step.call.operation? step.manager.availableByDefault).map (.mk step.manager.conditions)

theorem conditions_run :
    (run status steps).conditions =
      ConditionManager.run status.conditions (steps.filterMap conditionStep?) := by
  induction steps using List.reverseRecOn with
  | nil => rfl
  | append_singleton steps last ih =>
      rw [run_append_singleton, perform, SourceManager.conditions_perform, List.filterMap_append,
        ConditionManager.run_append, ← ih, List.filterMap_cons, conditionStep?]
      cases last.call.operation? last.manager.availableByDefault <;> rfl

theorem sinkShown_run (hpossible : ∀ step ∈ steps, step.call.Possible)
    (hhappy : ∀ step ∈ steps, step.manager.conditions.set.happy ≠ sinkProvided) :
    SinkShown (run .empty steps) := by
  induction steps using List.reverseRecOn with
  | nil =>
      intro c hc
      simp [KafkaSourceStatus.empty] at hc
  | append_singleton steps last ih =>
      obtain ⟨hearlier, hlast⟩ := List.forall_mem_append.mp hpossible
      obtain ⟨hearlierHappy, hlastHappy⟩ := List.forall_mem_append.mp hhappy
      rw [run_append_singleton]
      exact sinkShown_perform (ih hearlier hearlierHappy) (hlast last (by simp))
        (hlastHappy last (by simp))

/-- In every run from the empty status, of passes with any timestamps and under any sets whose
aggregate is not the condition of the sink: if that condition is met, then the status has an address
of the sink that is not empty, and the condition has no reason and no message.  So if the conditions
were operated on last under a set that has the sink among its dependents, then whoever finds the
source ready by the aggregate of that set finds an address.  The default set is one that has it. -/
theorem hasSink_of_run (steps : List SourceStep) (hpossible : ∀ step ∈ steps, step.call.Possible)
    (hhappy : ∀ step ∈ steps, step.manager.conditions.set.happy ≠ sinkProvided) :
    let reached := run .empty steps
    (∀ c ∈ reached.conditions, c.type = sinkProvided → c.status = .met →
      (∃ uri, reached.sinkUri = some uri ∧ uri ≠ "") ∧ c.reason = "" ∧ c.message = "") ∧
    (∀ earlier last, steps.filterMap conditionStep? = earlier ++ [last] →
      sinkProvided ∈ last.manager.set.dependents →
      ∀ reader : SourceManager, reader.conditions.set.happy = last.manager.set.happy →
        reader.isReady reached = true → ∃ uri, reached.sinkUri = some uri ∧ uri ≠ "") ∧
    sinkProvided ∈ SourceCondition.set.dependents := by
  intro reached
  have hshown : SinkShown reached := sinkShown_run hpossible hhappy
  have hconditions : reached.conditions =
      ConditionManager.run [] (steps.filterMap conditionStep?) := conditions_run
  refine ⟨?_, ?_, by decide⟩
  · intro c hc htype hmet
    have hnodup : (reached.conditions.map Condition.type).Nodup :=
      hconditions ▸ ConditionManager.nodup_run
    have hfind : findCondition? sinkProvided reached.conditions = some c :=
      htype ▸ ConditionManager.findCondition?_of_mem hnodup hc
    obtain ⟨hsink, houtcome⟩ := hshown c hfind hmet
    exact ⟨hsink, congrArg Outcome.reason houtcome, congrArg Outcome.message houtcome⟩
  · intro earlier last hsteps hdependent reader hreads hready
    have hsettled : ConditionManager.Settled last.manager.set reached.conditions := by
      rw [hconditions, hsteps]
      exact ConditionManager.settled_run
    have hmet : ConditionManager.AllMet last.manager.set reached.conditions :=
      (hsettled.isHappy_iff hreads).mp hready
    obtain ⟨c, hfind, hstatus⟩ := hmet sinkProvided hdependent
    exact (hshown c hfind hstatus).1

/-- Under the default set the source is ready with one address.  The set is replaced by one that does
not ask for the sink, under which the sink is lost and the source is ready all the same.  When the
default set is back, the source is ready with another address, which a later manager finds. -/
theorem hasSink_of_run_of_replaced_set :
    let manager (set : ConditionSet) (second : Fin 60) : SourceManager :=
      ⟨⟨set, ConditionManager.exampleTime second⟩, true⟩
    let steps : List SourceStep :=
      [⟨manager SourceCondition.set 10, .deployment ⟨some "reader", none⟩⟩,
        ⟨manager SourceCondition.set 10, .connectionEstablished⟩,
        ⟨manager SourceCondition.set 10, .initialOffsetCommitted⟩,
        ⟨manager SourceCondition.set 10, .oidcSucceeded⟩,
        ⟨manager SourceCondition.set 10, .sink ⟨none, some "http://first", none, none⟩⟩,
        ⟨manager (.living []) 30, .noSink "NotFound" "No sink."⟩,
        ⟨manager SourceCondition.set 20, .sink ⟨none, some "http://second", none, none⟩⟩,
        ⟨manager SourceCondition.set 20, .claims "topic: 0"⟩]
    let reached := run .empty steps
    let shown : Condition :=
      ⟨sinkProvided, .met, .error, some (ConditionManager.exampleTime 20), "", ""⟩
    shown ∈ reached.conditions ∧ (manager (.living []) 40).isReady reached = true ∧
      (manager (.living []) 40).isReady (run .empty (steps.take 6)) = true ∧
      reached.sinkUri = some "http://second" ∧ ∃ uri, reached.sinkUri = some uri ∧ uri ≠ "" := by
  intro manager steps reached shown
  have hmarks : ∀ call ∈ [SourceCall.connectionEstablished, .initialOffsetCommitted,
      .oidcSucceeded, .noSink "NotFound" "No sink."], call.Possible := by
    intro call hcall
    refine SourceCall.possible_of_mem_marks "NotFound" "No sink." ?_
    revert call
    decide
  have hpossible : ∀ step ∈ steps, step.call.Possible := by
    simp only [steps, List.forall_mem_cons]
    exact ⟨⟨true, _, .available rfl⟩, hmarks _ (by decide), hmarks _ (by decide),
      hmarks _ (by decide), ⟨true, _, .sink rfl (by decide)⟩, hmarks _ (by decide),
      ⟨true, _, .sink rfl (by decide)⟩, ⟨true, _, .claims _⟩, by simp⟩
  have hhappy : ∀ step ∈ steps, step.manager.conditions.set.happy ≠ sinkProvided := by decide
  obtain ⟨-, hready, hdefault⟩ := hasSink_of_run steps hpossible hhappy
  have hmem : shown ∈ reached.conditions := by decide +kernel
  have hreader : (manager (.living []) 40).isReady reached = true := by decide +kernel
  refine ⟨hmem, hreader, by decide +kernel, by decide +kernel, ?_⟩
  -- the last step but one is the last that operates on the conditions
  exact hready ((steps.take 6).filterMap conditionStep?)
    ⟨⟨SourceCondition.set, ConditionManager.exampleTime 20⟩, .marking sinkProvided .met⟩
    (by decide +kernel) hdefault (manager (.living []) 40) rfl hreader

end SourceStep

end StatusRouter
