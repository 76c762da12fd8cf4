import StatusRouter.Json.Mismatch

/-!
# Resource keys

A namespaced resource is known by its namespace and its name.  Keys are ordered by the namespace
first and then by the name, both by code point.
-/

namespace StatusRouter

/-- Identifies a namespaced resource; the unit of work in a work queue. -/
structure ResourceId where
  «namespace» : String
  name : String
  deriving DecidableEq

namespace ResourceId

/-- The key as texts show it. -/
def text (id : ResourceId) : String := id.namespace ++ "/" ++ id.name

/-- Whether a key comes before another one, or is the same. -/
def precedes (a b : ResourceId) : Bool :=
  a.namespace < b.namespace || (a.namespace = b.namespace && decide (a.name ≤ b.name))

/-- The keys in order. -/
def sort (ids : List ResourceId) : List ResourceId :=
  ids.mergeSort precedes

/-- Puts a key at its place in a list of keys in order, unless it is there. -/
def insertOnce (id : ResourceId) : List ResourceId → List ResourceId
  | [] => [id]
  | other :: rest =>
    if id = other then other :: rest
    else if id.precedes other then id :: other :: rest
    else other :: insertOnce id rest

/-- The set of the keys of a list, in order. -/
def toSet (ids : List ResourceId) : List ResourceId :=
  ids.foldl (fun set id => insertOnce id set) []

@[simp] theorem mem_insertOnce {id a : ResourceId} {ids : List ResourceId} :
    a ∈ insertOnce id ids ↔ a = id ∨ a ∈ ids := by
  induction ids with
  | nil => simp [insertOnce]
  | cons other rest ih =>
    unfold insertOnce
    split
    · rename_i heq
      simp [heq]
    · split
      · simp
      · simp only [List.mem_cons, ih]
        exact or_left_comm

theorem mem_foldl_insertOnce {a : ResourceId} (ids set : List ResourceId) :
    a ∈ ids.foldl (fun set id => insertOnce id set) set ↔ a ∈ ids ∨ a ∈ set := by
  induction ids generalizing set with
  | nil => simp
  | cons id rest ih =>
    rw [List.foldl_cons, ih, mem_insertOnce, List.mem_cons, or_assoc, or_left_comm]

/-- The set of the keys of a list holds just these keys. -/
@[simp] theorem mem_toSet {a : ResourceId} {ids : List ResourceId} : a ∈ toSet ids ↔ a ∈ ids := by
  simp [toSet, mem_foldl_insertOnce]

open Json (Mismatch) in
/-- The key that an array of two texts stands for. -/
def decode (j : Json) : Except Mismatch ResourceId :=
  (fun pair => ⟨pair.1, pair.2⟩) <$> j.textPair

/-- The key as an array of two texts. -/
def toJson (id : ResourceId) : Json := Json.strings [id.namespace, id.name]

end ResourceId

end StatusRouter
