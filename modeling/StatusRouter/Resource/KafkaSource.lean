import StatusRouter.Condition.Basic
import StatusRouter.Resource.Metadata

/-!
# Kafka sources

A Kafka source reads events from a set of topics and delivers them to a sink.  Its specification
says what is wanted, its status what has been achieved.
-/

namespace StatusRouter

/-- What is wanted of a source. -/
structure KafkaSourceSpec where
  bootstrapServers : List String
  topics : List String
  consumerGroup : Option String
  /-- Number of consumers that read from the topics concurrently. -/
  consumers : Option Int32
  sink : Destination
  deriving DecidableEq

namespace KafkaSourceSpec

def shape : Shape :=
  .record
    ⟨"KafkaSourceSpec", "Reads events from a set of Kafka topics and delivers them to a sink.",
      .strict⟩ <|
    .cons ⟨"bootstrapServers", "", .required⟩ (.list .string) <|
    .cons ⟨"topics", "", .required⟩ (.list .string) <|
    .optionalText "consumerGroup" "" <|
    .cons ⟨"consumers", "Number of consumers that read from the topics concurrently.", .omitted⟩
      (.optional (.integer .int32)) <|
    .cons ⟨"sink", "", .required⟩ Destination.shape .nil

def toValue (spec : KafkaSourceSpec) : shape.Value :=
  (spec.bootstrapServers, spec.topics, spec.consumerGroup, spec.consumers, spec.sink.toValue, ())

def ofValue : shape.Value → KafkaSourceSpec
  | (bootstrapServers, topics, consumerGroup, consumers, sink, ()) =>
    ⟨bootstrapServers, topics, consumerGroup, consumers, .ofValue sink⟩

@[simp] theorem ofValue_toValue (spec : KafkaSourceSpec) : ofValue spec.toValue = spec := by
  simp [ofValue, toValue]

instance : Shaped KafkaSourceSpec := ⟨shape, toValue, ofValue, ofValue_toValue⟩

end KafkaSourceSpec

/-- What has been achieved of a source. -/
structure KafkaSourceStatus where
  observedGeneration : Option Int64
  /-- Kept in order of the types by the operations on it. -/
  conditions : List Condition
  sinkUri : Option String
  sinkCaCerts : Option String
  sinkAudience : Option String
  /-- Replicas of the deployment that reads the topics, as last seen while it was available. -/
  consumers : Int32
  /-- Summary of the partitions that are claimed. -/
  claims : String
  deriving DecidableEq

namespace KafkaSourceStatus

/-- The status of a source of which nothing is known. -/
def empty : KafkaSourceStatus :=
  { observedGeneration := none
    conditions := []
    sinkUri := none
    sinkCaCerts := none
    sinkAudience := none
    consumers := 0
    claims := "" }

def shape : Shape :=
  .record ⟨"KafkaSourceStatus", "", .strict⟩ <|
    .cons ⟨"observedGeneration", "", .omitted⟩ (.optional (.integer .int64)) <|
    .cons ⟨"conditions", "Kept sorted by condition type.", .defaulted⟩ (.list Condition.shape) <|
    .optionalText "sinkUri" "" <|
    .optionalText "sinkCACerts" "" <|
    .optionalText "sinkAudience" "" <|
    .cons
      ⟨"consumers", "Replicas of the receive adapter, as last observed while available.",
        .defaulted⟩
      (.integer .int32) <|
    .cons
      ⟨"claims", "Summary of the partitions claimed by the consumer group.", .omitted⟩ .string .nil

def toValue (status : KafkaSourceStatus) : shape.Value :=
  (status.observedGeneration, status.conditions.map Condition.toValue, status.sinkUri,
    status.sinkCaCerts, status.sinkAudience, status.consumers, status.claims, ())

def ofValue : shape.Value → KafkaSourceStatus
  | (observedGeneration, conditions, sinkUri, sinkCaCerts, sinkAudience, consumers, claims, ()) =>
    ⟨observedGeneration, List.map Condition.ofValue conditions, sinkUri, sinkCaCerts, sinkAudience,
      consumers, claims⟩

@[simp] theorem ofValue_toValue (status : KafkaSourceStatus) :
    ofValue status.toValue = status :=
  congrArg (fun conditions => { status with conditions })
    (map_map_of_inverse Condition.ofValue_toValue status.conditions)

instance : Shaped KafkaSourceStatus := ⟨shape, toValue, ofValue, ofValue_toValue⟩

end KafkaSourceStatus

/-- A Kafka source. -/
structure KafkaSource where
  metadata : Metadata
  spec : KafkaSourceSpec
  status : Option KafkaSourceStatus

namespace KafkaSource

def shape : Shape :=
  .record ⟨"KafkaSource", "", .strict⟩ <|
    .cons ⟨"metadata", "", .required⟩ Metadata.shape <|
    .cons ⟨"spec", "", .required⟩ KafkaSourceSpec.shape <|
    .cons ⟨"status", "", .nullable⟩ (.optional KafkaSourceStatus.shape) .nil

def toValue (source : KafkaSource) : shape.Value :=
  (source.metadata.toValue, source.spec.toValue, source.status.map KafkaSourceStatus.toValue, ())

def ofValue : shape.Value → KafkaSource
  | (metadata, spec, status, ()) =>
    ⟨.ofValue metadata, .ofValue spec, Option.map KafkaSourceStatus.ofValue status⟩

@[simp] theorem ofValue_toValue (source : KafkaSource) : ofValue source.toValue = source := by
  obtain ⟨metadata, spec, status⟩ := source
  show KafkaSource.mk _ _ _ = _
  rw [Metadata.ofValue_toValue, KafkaSourceSpec.ofValue_toValue,
    optionMap_map_of_inverse KafkaSourceStatus.ofValue_toValue]

instance : Shaped KafkaSource := ⟨shape, toValue, ofValue, ofValue_toValue⟩

end KafkaSource

end StatusRouter
