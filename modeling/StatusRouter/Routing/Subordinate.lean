import StatusRouter.Resource.Metadata

/-!
# Subordinate resources

A subordinate is a resource that other resources own.  Of all that it carries, routing looks at its
kind, its key, and the kinds and names of its owners.
-/

namespace StatusRouter

/-- An owner, as a subordinate refers to it. -/
structure Owner where
  kind : String
  name : String
  deriving DecidableEq

/-- A resource that may have owners. -/
structure Subordinate where
  kind : String
  «namespace» : Option String
  name : Option String
  /-- The beginning of a name that is still to be made. -/
  generateName : Option String
  owners : List Owner
  deriving DecidableEq

namespace Subordinate

/-- The name that a resource goes by in texts: its own, or the beginning of one, or none. -/
def anyName (resource : Subordinate) : String :=
  (resource.name.or resource.generateName).getD ""

/-- The subordinate of a kind with the given metadata. -/
def ofMetadata (kind : String) (metadata : Metadata) : Subordinate :=
  { kind := kind
    «namespace» := metadata.namespace
    name := metadata.name
    generateName := metadata.generateName
    owners := (metadata.ownerReferences.getD []).map fun owner => ⟨owner.kind, owner.name⟩ }

end Subordinate

end StatusRouter
