import StatusRouter.Proofs.Condition.Operation
import StatusRouter.SourceStatus

/-!
# What a call does

A call on the status of a source does two things apart: it copies what the step found into fields of
the status, and it performs one operation on the conditions, or none.  `perform_eq` says so for
every call.  What a call writes is its target; initializing has none of its own.  Calls with
different targets copy into different fields, so `copy_comm` lets them change places.
-/

namespace StatusRouter

/-- What a call writes: the condition of a type, or the claims. -/
inductive SourceTarget where
  | condition (type : ConditionType)
  | claims
  deriving DecidableEq

namespace SourceCall

/-- What a call writes, apart from the aggregate and from conditions that were missing. -/
def target? : SourceCall → Option SourceTarget
  | .initializing => none
  | .sink _ => some (.condition SourceCondition.sinkProvided)
  | .deployment _ => some (.condition SourceCondition.deployed)
  | .outcome type _ => some (.condition type)
  | .claims _ => some .claims

variable (availableByDefault : Bool)

/-- The operation on the conditions that a call comes to. -/
def operation? : SourceCall → Option ConditionManager.Operation
  | .initializing => some .initializing
  | .sink address =>
    some (.marking SourceCondition.sinkProvided
      (if address.resolvedUrl?.isSome then .met else SourceManager.sinkEmpty))
  | .deployment found =>
    some (.marking SourceCondition.deployed
      (if (found.status.getD .empty).isAvailable availableByDefault then .met
      else SourceManager.unavailable found))
  | .outcome type result => some (.marking type result)
  | .claims _ => none

/-- The status with what a call copies into the fields other than the conditions. -/
def copy (status : KafkaSourceStatus) : SourceCall → KafkaSourceStatus
  | .initializing => status
  | .sink address =>
    match address.resolvedUrl? with
    | some url =>
      { status with
        sinkUri := some url
        sinkCaCerts := address.caCerts
        sinkAudience := address.audience }
    | none => status
  | .deployment found =>
    if (found.status.getD .empty).isAvailable availableByDefault then
      { status with consumers := (found.status.getD .empty).replicas.getD 0 }
    else status
  | .outcome _ _ => status
  | .claims summary => { status with claims := summary }

variable {availableByDefault}

theorem target?_of_marked? {call : SourceCall} {operation : ConditionManager.Operation}
    {type : ConditionType} (h : call.operation? availableByDefault = some operation)
    (hmarked : operation.marked? = some type) : call.target? = some (.condition type) := by
  cases call with
  | claims summary => simp [operation?] at h
  | initializing =>
      obtain rfl := Option.some.inj h
      simp [ConditionManager.Operation.marked?] at hmarked
  | _ =>
      obtain rfl := Option.some.inj h
      obtain rfl := Option.some.inj hmarked
      rfl

theorem copy_onConditions (change : List Condition → List Condition) (status : KafkaSourceStatus)
    (call : SourceCall) :
    copy availableByDefault (SourceManager.onConditions change status) call =
      SourceManager.onConditions change (copy availableByDefault status call) := by
  cases call with
  | initializing => rfl
  | sink address => simp only [copy]; split <;> rfl
  | deployment found => simp only [copy]; split <;> rfl
  | outcome type result => rfl
  | claims summary => rfl

theorem conditions_copy (status : KafkaSourceStatus) (call : SourceCall) :
    (copy availableByDefault status call).conditions = status.conditions := by
  cases call with
  | initializing => rfl
  | sink address => simp only [copy]; split <;> rfl
  | deployment found => simp only [copy]; split <;> rfl
  | outcome type result => rfl
  | claims summary => rfl

theorem copy_copy (status : KafkaSourceStatus) (call : SourceCall) :
    copy availableByDefault (copy availableByDefault status call) call =
      copy availableByDefault status call := by
  cases call with
  | initializing => rfl
  | sink address => simp only [copy]; cases address.resolvedUrl? <;> rfl
  | deployment found => simp only [copy]; split <;> rfl
  | outcome type result => rfl
  | claims summary => rfl

theorem copy_comm (status : KafkaSourceStatus) {first second : SourceCall}
    (h : ∀ target, first.target? = some target → second.target? ≠ some target) :
    copy availableByDefault (copy availableByDefault status first) second =
      copy availableByDefault (copy availableByDefault status second) first := by
  cases first with
  | initializing => rfl
  | outcome type result => rfl
  | sink address =>
      cases second with
      | initializing => rfl
      | outcome type result => rfl
      | sink other => exact absurd rfl (h _ rfl)
      | deployment found =>
          cases hurl : address.resolvedUrl? with
          | none => simp only [copy, hurl]
          | some url => simp only [copy, hurl]; split <;> rfl
      | claims summary => simp only [copy]; split <;> rfl
  | deployment found =>
      cases second with
      | initializing => rfl
      | outcome type result => rfl
      | deployment other => exact absurd rfl (h _ rfl)
      | sink address =>
          cases hurl : address.resolvedUrl? with
          | none => simp only [copy, hurl]
          | some url => simp only [copy, hurl]; split <;> rfl
      | claims summary => simp only [copy]; split <;> rfl
  | claims summary =>
      cases second with
      | initializing => rfl
      | outcome type result => rfl
      | sink address => simp only [copy]; split <;> rfl
      | deployment found => simp only [copy]; split <;> rfl
      | claims other => exact absurd rfl (h _ rfl)

end SourceCall

/-- Performs an operation, if there is one. -/
def ConditionManager.perform? (manager : ConditionManager) (operation : Option Operation)
    (conditions : List Condition) : List Condition :=
  match operation with
  | none => conditions
  | some operation => manager.perform conditions operation

namespace SourceManager

variable (manager : SourceManager)

/-- A call copies what it found, and performs its operation on the conditions. -/
theorem perform_eq (status : KafkaSourceStatus) (call : SourceCall) :
    manager.perform status call =
      onConditions (manager.conditions.perform? (call.operation? manager.availableByDefault))
        (call.copy manager.availableByDefault status) := by
  cases call with
  | initializing => rfl
  | sink address =>
      simp only [perform, recordSink, SourceCall.copy, SourceCall.operation?]
      cases address.resolvedUrl? <;> rfl
  | deployment found =>
      simp only [perform, recordDeployment, SourceCall.copy, SourceCall.operation?]
      split <;> rfl
  | outcome type result => rfl
  | claims summary => rfl

/-- The status after the calls of a pass. -/
def performAll (status : KafkaSourceStatus) (calls : List SourceCall) : KafkaSourceStatus :=
  calls.foldl manager.perform status

theorem conditions_perform (status : KafkaSourceStatus) (call : SourceCall) :
    (manager.perform status call).conditions =
      manager.conditions.perform? (call.operation? manager.availableByDefault)
        status.conditions := by
  rw [perform_eq, onConditions, SourceCall.conditions_copy]

end SourceManager

end StatusRouter
