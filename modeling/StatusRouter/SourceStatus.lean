import StatusRouter.Condition.Manager
import StatusRouter.Resource.Deployment
import StatusRouter.Resource.KafkaSource

/-!
# The status of a source

A reconciliation pass looks at a Kafka source step by step, and each step records its result in the
status of the source: a condition for the step, and now and then what the step found out.  All steps
of a pass work with the condition set that was in effect when the pass began, and with one
timestamp.
-/

namespace StatusRouter

namespace SourceCondition

/-- The sink was resolved to an address. -/
def sinkProvided : ConditionType := ⟨"SinkProvided"⟩

/-- The deployment that reads the topics is available. -/
def deployed : ConditionType := ⟨"Deployed"⟩

/-- The key type is one that keys can be read as.  It informs only, and does not gate readiness. -/
def keyTypeCorrect : ConditionType := ⟨"KeyTypeCorrect"⟩

/-- A connection could be established with the configuration of the source. -/
def connectionEstablished : ConditionType := ⟨"ConnectionEstablished"⟩

/-- The initial offsets of all claims have been committed. -/
def initialOffsetsCommitted : ConditionType := ⟨"InitialOffsetsCommitted"⟩

/-- The identity of the source has been created. -/
def oidcIdentityCreated : ConditionType := ⟨"OIDCIdentityCreated"⟩

/-- All conditions of a source. -/
def all : List ConditionType :=
  [sinkProvided, deployed, keyTypeCorrect, connectionEstablished, initialOffsetsCommitted,
    oidcIdentityCreated]

/-- The conditions that a source has to meet to be ready, in the order in which their reasons take
precedence. -/
def set : ConditionSet :=
  .living
    [sinkProvided, deployed, connectionEstablished, initialOffsetsCommitted, oidcIdentityCreated]

end SourceCondition

/-- How the status of sources is kept: the conditions to meet, and whether a deployment counts as
available that does not say. -/
structure SourceConditions where
  shared : SharedConditionSet
  availableByDefault : Bool
  deriving DecidableEq

/-- Records the results of a pass in the status of a source. -/
structure SourceManager where
  conditions : ConditionManager
  availableByDefault : Bool
  deriving DecidableEq

/-- A step of a pass, with what it found. -/
inductive SourceCall where
  | initializing
  /-- The sink was resolved, or was found to have no address yet. -/
  | sink (address : Addressable)
  /-- The deployment was found, in whatever state. -/
  | deployment (deployment : Deployment)
  /-- A condition has an outcome. -/
  | outcome (type : ConditionType) (outcome : Outcome)
  /-- The consumer group claims partitions. -/
  | claims (summary : String)
  deriving DecidableEq

namespace SourceCall

variable (reason message : String)

/-- There is no sink. -/
def noSink : SourceCall := .outcome SourceCondition.sinkProvided ⟨.unmet, reason, message⟩

def deploying : SourceCall := .outcome SourceCondition.deployed ⟨.unknown, reason, message⟩

def notDeployed : SourceCall := .outcome SourceCondition.deployed ⟨.unmet, reason, message⟩

def keyTypeCorrect : SourceCall := .outcome SourceCondition.keyTypeCorrect .met

def keyTypeIncorrect : SourceCall :=
  .outcome SourceCondition.keyTypeCorrect ⟨.unmet, reason, message⟩

def connectionEstablished : SourceCall := .outcome SourceCondition.connectionEstablished .met

def connectionNotEstablished : SourceCall :=
  .outcome SourceCondition.connectionEstablished ⟨.unmet, reason, message⟩

def initialOffsetCommitted : SourceCall := .outcome SourceCondition.initialOffsetsCommitted .met

def initialOffsetNotCommitted : SourceCall :=
  .outcome SourceCondition.initialOffsetsCommitted ⟨.unmet, reason, message⟩

def oidcSucceeded : SourceCall := .outcome SourceCondition.oidcIdentityCreated .met

/-- The identity exists, and there is something to say about how it came to be. -/
def oidcSucceededWithReason : SourceCall :=
  .outcome SourceCondition.oidcIdentityCreated ⟨.met, reason, message⟩

def oidcFailed : SourceCall :=
  .outcome SourceCondition.oidcIdentityCreated ⟨.unmet, reason, message⟩

def oidcUnknown : SourceCall :=
  .outcome SourceCondition.oidcIdentityCreated ⟨.unknown, reason, message⟩

end SourceCall

namespace SourceConditions

/-- The conditions of a source, and only deployments that say so are available. -/
def default : SourceConditions := ⟨⟨SourceCondition.set⟩, false⟩

/-- Begins a pass with the set in effect. -/
def manage (conditions : SourceConditions) (now : Instant) : SourceManager :=
  ⟨⟨conditions.shared.load, now⟩, conditions.availableByDefault⟩

end SourceConditions

namespace SourceManager

variable (manager : SourceManager)

/-- The status with its conditions changed. -/
def onConditions (change : List Condition → List Condition) (status : KafkaSourceStatus) :
    KafkaSourceStatus :=
  { status with conditions := change status.conditions }

/-- The outcome of a sink without an address, which is still pending rather than failed. -/
def sinkEmpty : Outcome := ⟨.unknown, "SinkEmpty", "Sink has resolved to empty."⟩

/-- The outcome of a deployment that is not available. -/
def unavailable (deployment : Deployment) : Outcome :=
  ⟨.unmet, "DeploymentUnavailable",
    "The Deployment '" ++ deployment.name.getD "" ++ "' is unavailable."⟩

/-- Records a resolved sink. -/
def recordSink (address : Addressable) (status : KafkaSourceStatus) : KafkaSourceStatus :=
  match address.resolvedUrl? with
  | some url =>
    onConditions (manager.conditions.mark SourceCondition.sinkProvided .met)
      { status with
        sinkUri := some url
        sinkCaCerts := address.caCerts
        sinkAudience := address.audience }
  | none =>
    onConditions (manager.conditions.mark SourceCondition.sinkProvided sinkEmpty) status

/-- Records the state of a deployment, and how many replicas it runs if it is available. -/
def recordDeployment (deployment : Deployment) (status : KafkaSourceStatus) : KafkaSourceStatus :=
  let state := deployment.status.getD .empty
  if state.isAvailable manager.availableByDefault then
    { onConditions (manager.conditions.mark SourceCondition.deployed .met) status with
      consumers := state.replicas.getD 0 }
  else
    onConditions (manager.conditions.mark SourceCondition.deployed (unavailable deployment)) status

/-- Records the result of a step. -/
def perform (status : KafkaSourceStatus) : SourceCall → KafkaSourceStatus
  | .initializing => onConditions manager.conditions.initializeConditions status
  | .sink address => manager.recordSink address status
  | .deployment deployment => manager.recordDeployment deployment status
  | .outcome type outcome => onConditions (manager.conditions.mark type outcome) status
  | .claims summary => { status with claims := summary }

/-- The first condition of a type. -/
def condition? (type : ConditionType) (status : KafkaSourceStatus) : Option Condition :=
  findCondition? type status.conditions

/-- The condition of the aggregate. -/
def topLevel? (status : KafkaSourceStatus) : Option Condition :=
  condition? manager.conditions.set.happy status

/-- Whether the source is ready. -/
def isReady (status : KafkaSourceStatus) : Bool :=
  (manager.topLevel? status).any Condition.isTrue

/-- The aggregate is the one that a manager of the conditions finds. -/
theorem topLevel?_eq (status : KafkaSourceStatus) :
    manager.topLevel? status = manager.conditions.topLevel? status.conditions := rfl

theorem isReady_eq_isHappy (status : KafkaSourceStatus) :
    manager.isReady status = manager.conditions.isHappy status.conditions := by
  rw [isReady, topLevel?_eq, ConditionManager.isHappy]

/-- The conditions of a source that are present, in their usual order. -/
def known (status : KafkaSourceStatus) : List Condition :=
  SourceCondition.all.filterMap fun type => condition? type status

end SourceManager

end StatusRouter
