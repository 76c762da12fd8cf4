import StatusRouter.Json.Mismatch

/-!
# Deployments

A deployment runs the pods of a source.  It reports whether it is available by a condition of type
`Available`, the first of that type being the one that counts.
-/

namespace StatusRouter

/-- A condition as other parts of the cluster report them. -/
structure DeploymentCondition where
  type : String
  status : String
  deriving DecidableEq

/-- What has been achieved of a deployment. -/
structure DeploymentStatus where
  replicas : Option Int32
  conditions : Option (List DeploymentCondition)
  deriving DecidableEq

/-- A deployment, as far as the status of a source depends on it. -/
structure Deployment where
  name : Option String
  status : Option DeploymentStatus
  deriving DecidableEq

/-- Whether the status of the first condition of a type is `True`; `fallback` if there is none of
that type. -/
def conditionIsTrue (conditions : List DeploymentCondition) (type : String) (fallback : Bool) :
    Bool :=
  match conditions.find? fun c => c.type = type with
  | some c => c.status = "True"
  | none => fallback

namespace DeploymentStatus

/-- The status of a deployment that has reported nothing. -/
def empty : DeploymentStatus := ⟨none, none⟩

/-- Whether a deployment reports itself available. -/
def isAvailable (status : DeploymentStatus) (fallback : Bool) : Bool :=
  conditionIsTrue (status.conditions.getD []) "Available" fallback

end DeploymentStatus

end StatusRouter
