import StatusRouter.Proofs.Source.Session

/-!
# A pass is a pass of one manager of conditions

The manager of a pass does not keep a manager of conditions.  It has one made for each call, and it
looks the conditions up itself.  Nothing of this is seen: the conditions after any calls of a pass are
those that one manager of the set loaded at the beginning leaves, performing the operations that the
calls come to, and each of the ways to read them reads the same of both.  Replacing the set while the
pass is under way does not matter to either.

What a call comes to is said in the marks of the manager of conditions (`SourceCall.ComesTo`), with
the conditions, reasons and messages written out.
-/

namespace StatusRouter

open ConditionManager (Operation)

/-! ## What a call comes to -/

namespace SourceCall

variable {availableByDefault : Bool}

/-- The calls that record an outcome as it was given, and the marks that they come to. -/
def marks (reason message : String) : List (SourceCall × Operation) :=
  [(noSink reason message, .markFalse SourceCondition.sinkProvided reason message),
    (deploying reason message, .markUnknown SourceCondition.deployed reason message),
    (notDeployed reason message, .markFalse SourceCondition.deployed reason message),
    (keyTypeCorrect, .markTrue SourceCondition.keyTypeCorrect),
    (keyTypeIncorrect reason message, .markFalse SourceCondition.keyTypeCorrect reason message),
    (connectionEstablished, .markTrue SourceCondition.connectionEstablished),
    (connectionNotEstablished reason message,
      .markFalse SourceCondition.connectionEstablished reason message),
    (initialOffsetCommitted, .markTrue SourceCondition.initialOffsetsCommitted),
    (initialOffsetNotCommitted reason message,
      .markFalse SourceCondition.initialOffsetsCommitted reason message),
    (oidcSucceeded, .markTrue SourceCondition.oidcIdentityCreated),
    (oidcSucceededWithReason reason message,
      .markTrueWithReason SourceCondition.oidcIdentityCreated reason message),
    (oidcFailed reason message, .markFalse SourceCondition.oidcIdentityCreated reason message),
    (oidcUnknown reason message, .markUnknown SourceCondition.oidcIdentityCreated reason message)]

/-- What a call comes to on the conditions, for every call that a pass can make. -/
inductive ComesTo (availableByDefault : Bool) : SourceCall → Option Operation → Prop
  | initializing : ComesTo availableByDefault .initializing (some .initializing)
  | sink {address : Addressable} {url : String} (h : address.url = some url) (hne : url ≠ "") :
      ComesTo availableByDefault (.sink address) (some (.markTrue SourceCondition.sinkProvided))
  | emptySink {address : Addressable} (h : address.url = none ∨ address.url = some "") :
      ComesTo availableByDefault (.sink address)
        (some (.markUnknown SourceCondition.sinkProvided "SinkEmpty"
          "Sink has resolved to empty."))
  | available {found : Deployment}
      (h : (found.status.getD .empty).isAvailable availableByDefault = true) :
      ComesTo availableByDefault (.deployment found)
        (some (.markTrue SourceCondition.deployed))
  | unavailable {found : Deployment}
      (h : (found.status.getD .empty).isAvailable availableByDefault = false) :
      ComesTo availableByDefault (.deployment found)
        (some (.markFalse SourceCondition.deployed "DeploymentUnavailable"
          ("The Deployment '" ++ found.name.getD "" ++ "' is unavailable.")))
  | recorded {reason message : String} {call : SourceCall} {operation : Operation}
      (h : (call, operation) ∈ marks reason message) :
      ComesTo availableByDefault call (some operation)
  | claims (summary : String) : ComesTo availableByDefault (.claims summary) none

theorem operation?_of_mem_marks {reason message : String} {call : SourceCall}
    {operation : Operation} (h : (call, operation) ∈ marks reason message) :
    call.operation? availableByDefault = some operation := by
  simp only [marks, List.mem_cons, List.not_mem_nil, or_false, Prod.mk.injEq] at h
  rcases h with ⟨rfl, rfl⟩ | ⟨rfl, rfl⟩ | ⟨rfl, rfl⟩ | ⟨rfl, rfl⟩ | ⟨rfl, rfl⟩ | ⟨rfl, rfl⟩ |
    ⟨rfl, rfl⟩ | ⟨rfl, rfl⟩ | ⟨rfl, rfl⟩ | ⟨rfl, rfl⟩ | ⟨rfl, rfl⟩ | ⟨rfl, rfl⟩ | ⟨rfl, rfl⟩ <;>
    rfl

theorem ComesTo.operation?_eq {call : SourceCall} {operation : Option Operation}
    (h : ComesTo availableByDefault call operation) :
    call.operation? availableByDefault = operation := by
  cases h with
  | initializing => rfl
  | sink h hne =>
      rw [operation?, Addressable.resolvedUrl?_eq_some_iff.mpr ⟨h, hne⟩]
      rfl
  | emptySink h =>
      rw [operation?, Addressable.resolvedUrl?_eq_none_iff.mpr h]
      rfl
  | available h =>
      rw [operation?, if_pos h]
      rfl
  | unavailable h =>
      rw [operation?, if_neg (by simp [h])]
      rfl
  | recorded h => exact operation?_of_mem_marks h
  | claims summary => rfl

end SourceCall

/-- The operations on the conditions that the calls among events come to. -/
def operationsOf (availableByDefault : Bool) (events : List SourceEvent) : List Operation :=
  events.filterMap fun
    | .calling call => call.operation? availableByDefault
    | _ => none

namespace SourceSession

variable (session : SourceSession)

/-- The steps of a pass are the operations of its calls, all performed by its manager. -/
theorem steps_eq_of_pass {events : List SourceEvent} (hpass : ∀ time, .beginning time ∉ events) :
    session.steps events =
      (operationsOf session.manager.availableByDefault events).map
        (.mk session.manager.conditions) := by
  induction events generalizing session with
  | nil => rfl
  | cons event events ih =>
      have hrest : ∀ time, .beginning time ∉ events :=
        fun time hmem => hpass time (List.mem_cons_of_mem event hmem)
      rw [steps, ih _ hrest]
      cases event with
      | beginning time => exact absurd List.mem_cons_self (hpass time)
      | replacing set => rfl
      | calling call =>
          simp only [step?, operationsOf, follow, List.filterMap_cons]
          cases call.operation? session.manager.availableByDefault <;> rfl

/-- After any calls of a pass, the conditions of the source are those that one manager of conditions
leaves, of the set that was in effect when the pass began and with the timestamp of the pass, if it
performs on the conditions at the beginning the operations that the calls come to; and whatever is
read of the source is what is read of that manager. -/
theorem conditions_run_of_pass (conditions : SourceConditions) (now : Instant)
    (status : KafkaSourceStatus) {events : List SourceEvent}
    (hpass : ∀ time, .beginning time ∉ events) :
    let availableByDefault := conditions.availableByDefault
    let reached := (start conditions now status).run events
    let core : ConditionManager := ⟨conditions.shared.load, now⟩
    let left := core.performAll status.conditions (operationsOf availableByDefault events)
    reached.status.conditions = left ∧
      (∀ type, SourceManager.condition? type reached.status = findCondition? type left) ∧
      reached.manager.topLevel? reached.status = core.topLevel? left ∧
      reached.manager.isReady reached.status = core.isHappy left ∧
      ∀ call operation, SourceCall.ComesTo availableByDefault call operation →
        call.operation? availableByDefault = operation := by
  intro availableByDefault reached core left
  have hmanager : reached.manager = conditions.manage now :=
    (start conditions now status).manager_run_of_no_beginning hpass
  have hconditions : reached.status.conditions = left := by
    simp only [reached, left]
    rw [conditions_run, steps_eq_of_pass _ hpass, ConditionManager.performAll_eq_run]
    rfl
  refine ⟨hconditions, ?_, ?_, ?_, fun call operation h => h.operation?_eq⟩
  · intro type
    rw [SourceManager.condition?, hconditions]
  · rw [SourceManager.topLevel?_eq, hconditions, hmanager]
    rfl
  · rw [SourceManager.isReady_eq_isHappy, hconditions, hmanager]
    rfl

/-- A pass goes on with the set it began with when that is replaced.  It finds an empty sink, a
deployment that does not say whether it is available, and no identity. -/
theorem conditions_run_of_pass_of_replaced_set :
    let conditions : SourceConditions :=
      ⟨⟨.living [SourceCondition.sinkProvided, SourceCondition.deployed]⟩, true⟩
    let now := ConditionManager.exampleTime 10
    let events : List SourceEvent :=
      [.calling .initializing, .calling (.sink ⟨some "sink", some "", none, none⟩),
        .replacing (.batch []), .calling (.deployment ⟨some "reader", none⟩),
        .calling (.claims "topic: 0"), .calling (.oidcFailed "Denied" "No identity.")]
    let reached := (start conditions now .empty).run events
    let core : ConditionManager := ⟨conditions.shared.load, now⟩
    let left := core.performAll []
      [.initializing,
        .markUnknown SourceCondition.sinkProvided "SinkEmpty" "Sink has resolved to empty.",
        .markTrue SourceCondition.deployed,
        .markFalse SourceCondition.oidcIdentityCreated "Denied" "No identity."]
    (∀ time, .beginning time ∉ events) ∧ reached.status.conditions = left ∧
      reached.manager.topLevel? reached.status = core.topLevel? left ∧
      (core.topLevel? left).map Condition.reason = some "SinkEmpty" := by
  intro conditions now events reached core left
  have hpass : ∀ time, .beginning time ∉ events := by simp [events]
  obtain ⟨hconditions, -, htop, -⟩ := conditions_run_of_pass conditions now .empty hpass
  exact ⟨hpass, hconditions, htop, by decide +kernel⟩

end SourceSession

end StatusRouter
