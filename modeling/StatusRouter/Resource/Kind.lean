import StatusRouter.Resource.ConsumerGroup
import StatusRouter.Shape.Schema

/-!
# Kinds of resources

What the cluster knows a kind of resource by: its group and version, its name in the singular and
plural, and, for the kinds that are defined here, the definition that introduces it.
-/

namespace StatusRouter

/-- A kind of resource. -/
structure ResourceKind where
  kind : String
  group : String
  version : String
  deriving DecidableEq

namespace ResourceKind

/-- The kind of Kafka sources. -/
def kafkaSource : ResourceKind := ⟨"KafkaSource", "sources.knative.dev", "v1"⟩

/-- The kind of consumer groups. -/
def consumerGroup : ResourceKind :=
  ⟨"ConsumerGroup", "internal.kafka.eventing.knative.dev", "v1alpha1"⟩

/-- The kind of deployments. -/
def deployment : ResourceKind := ⟨"Deployment", "apps", "v1"⟩

/-- The group and the version. -/
def apiVersion (k : ResourceKind) : String := k.group ++ "/" ++ k.version

def singular (k : ResourceKind) : String := k.kind.toLower

def plural (k : ResourceKind) : String := k.singular ++ "s"

/-- The name of the definition of a kind. -/
def definitionName (k : ResourceKind) : String := k.plural ++ "." ++ k.group

/-- The path of the namespaces that hold resources of a kind. -/
def namespacesPath (k : ResourceKind) : String := "/apis/" ++ k.apiVersion ++ "/namespaces/"

/-- The path of the resources of a kind in a namespace. -/
def path (k : ResourceKind) (ns : String) : String := k.namespacesPath ++ ns ++ "/" ++ k.plural

/-- The JSON form of a resource, which begins with its kind. -/
def resourceJson (k : ResourceKind) (members : Json) : Json :=
  match members with
  | .object members =>
    .object (("apiVersion", .string k.apiVersion) :: ("kind", .string k.kind) :: members)
  | other => other

/-- The schema of the resources of a kind, by the shapes of their specification and status.  What
every resource has beside these is not part of it. -/
def schema (k : ResourceKind) (spec status : Shape) : Schema :=
  .described ("Auto-generated derived type for " ++ k.kind ++ "Spec via `CustomResource`")
    (.object [("spec", spec.schema), ("status", .nullable status.schema)] ["spec"])

/-- The schema as it stands inside the definition of a kind, under the name of the kind. -/
def structuralSchema (k : ResourceKind) (spec status : Shape) : Json :=
  .object (("title", .string k.kind) :: (k.schema spec status).toStructural)

/-- The document that publishes the schema of the resources of a kind. -/
def document (k : ResourceKind) (spec status : Shape) : Json :=
  .object (Schema.documentMembers k.kind (k.schema spec status))

/-- The definition that introduces a kind to the cluster. -/
def definition (k : ResourceKind) (spec status : Shape) : Json :=
  .object
    [("apiVersion", .string "apiextensions.k8s.io/v1"),
      ("kind", .string "CustomResourceDefinition"),
      ("metadata", .object [("name", .string k.definitionName)]),
      ("spec",
        .object
          [("group", .string k.group),
            ("names",
              .object
                [("categories", .array []), ("kind", .string k.kind), ("plural", .string k.plural),
                  ("shortNames", .array []), ("singular", .string k.singular)]),
            ("scope", .string "Namespaced"),
            ("versions",
              .array
                [.object
                  [("additionalPrinterColumns", .array []), ("name", .string k.version),
                    ("schema", .object [("openAPIV3Schema", k.structuralSchema spec status)]),
                    ("served", .bool true), ("storage", .bool true),
                    ("subresources", .object [("status", .object [])])]])])]

end ResourceKind

/-- The JSON form of a source. -/
def KafkaSource.toJson (source : KafkaSource) : Json :=
  ResourceKind.kafkaSource.resourceJson (encode source)

/-- The definition that introduces Kafka sources. -/
def KafkaSource.definition : Json :=
  ResourceKind.kafkaSource.definition KafkaSourceSpec.shape KafkaSourceStatus.shape

/-- The document that publishes the schema of Kafka sources. -/
def KafkaSource.document : Json :=
  ResourceKind.kafkaSource.document KafkaSourceSpec.shape KafkaSourceStatus.shape

/-- The JSON form of a consumer group. -/
def ConsumerGroup.toJson (group : ConsumerGroup) : Json :=
  ResourceKind.consumerGroup.resourceJson (encode group)

/-- The definition that introduces consumer groups. -/
def ConsumerGroup.definition : Json :=
  ResourceKind.consumerGroup.definition ConsumerGroupSpec.shape ConsumerGroupStatus.shape

/-- The document that publishes the schema of consumer groups. -/
def ConsumerGroup.document : Json :=
  ResourceKind.consumerGroup.document ConsumerGroupSpec.shape ConsumerGroupStatus.shape

end StatusRouter
