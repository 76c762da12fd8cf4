import StatusRouter.Shape.Shaped

/-!
# Conditions

The status of a resource is reported as a list of conditions.  A condition has a type, which names
it, a status, which is `True`, `False` or `Unknown`, and says since when, why, and in which words.
-/

namespace StatusRouter

/-- The name of a condition within the status of a resource. -/
structure ConditionType where
  name : String
  deriving DecidableEq

namespace ConditionType

/-- The aggregate condition of resources that run on. -/
def ready : ConditionType := ⟨"Ready"⟩

/-- The aggregate condition of resources that run to completion. -/
def succeeded : ConditionType := ⟨"Succeeded"⟩

/-- Condition types are ordered by the code points of their names. -/
instance : LT ConditionType := ⟨fun a b => a.name < b.name⟩

instance (a b : ConditionType) : Decidable (a < b) :=
  inferInstanceAs (Decidable (a.name < b.name))

/-- The type as diagnostics show it. -/
def describe (type : ConditionType) : String :=
  "ConditionType(" ++ Text.quoted type.name ++ ")"

instance : Shaped ConditionType := ⟨.string, name, mk, fun _ => rfl⟩

end ConditionType

/-- Whether a condition is met, written `True`, `False` and `Unknown`. -/
inductive ConditionStatus where
  | met
  | unmet
  | unknown
  deriving DecidableEq

namespace ConditionStatus

/-- The written name of a status. -/
def text : ConditionStatus → String
  | met => "True"
  | unmet => "False"
  | unknown => "Unknown"

/-- The status with a written name. -/
def ofText? : String → Option ConditionStatus
  | "True" => some met
  | "False" => some unmet
  | "Unknown" => some unknown
  | _ => none

/-- The report that a text is no status. -/
def invalidText (s : String) : String :=
  "invalid condition status: " ++ Text.quoted s

theorem ofText?_text (status : ConditionStatus) : ofText? status.text = some status := by
  cases status <;> rfl

/-- The names of the statuses. -/
def choice : Choice :=
  { name := "ConditionStatus"
    doc := "The tri-state value of a condition."
    variants := ["True", "False", "Unknown"] }

def shape : Shape := .choice choice

/-- The place of a status among the names. -/
def index : ConditionStatus → Fin 3
  | met => 0
  | unmet => 1
  | unknown => 2

/-- The status at a place among the names. -/
def ofIndex : Fin 3 → ConditionStatus
  | 0 => met
  | 1 => unmet
  | 2 => unknown

@[simp] theorem ofIndex_index (status : ConditionStatus) : ofIndex status.index = status := by
  cases status <;> rfl

def toValue (status : ConditionStatus) : shape.Value := status.index

def ofValue (v : shape.Value) : ConditionStatus := ofIndex v

@[simp] theorem ofValue_toValue (status : ConditionStatus) : ofValue status.toValue = status :=
  ofIndex_index status

instance : Shaped ConditionStatus := ⟨shape, toValue, ofValue, ofValue_toValue⟩

end ConditionStatus

/-- How much a condition matters to the aggregate: an `error` that is not met blocks it. -/
inductive Severity where
  | error
  | warning
  | info
  deriving DecidableEq

namespace Severity

/-- The written name of a severity. -/
def text : Severity → String
  | error => "Error"
  | warning => "Warning"
  | info => "Info"

/-- The names of the severities. -/
def choice : Choice :=
  { name := "Severity"
    doc := "How much a condition matters to the aggregate.\n\n" ++
      "Only `Error` conditions that are not `True` block readiness."
    variants := ["Error", "Warning", "Info"] }

def shape : Shape := .choice choice

/-- The place of a severity among the names. -/
def index : Severity → Fin 3
  | error => 0
  | warning => 1
  | info => 2

/-- The severity at a place among the names. -/
def ofIndex : Fin 3 → Severity
  | 0 => error
  | 1 => warning
  | 2 => info

@[simp] theorem ofIndex_index (severity : Severity) : ofIndex severity.index = severity := by
  cases severity <;> rfl

def toValue (severity : Severity) : shape.Value := severity.index

def ofValue (v : shape.Value) : Severity := ofIndex v

@[simp] theorem ofValue_toValue (severity : Severity) : ofValue severity.toValue = severity :=
  ofIndex_index severity

instance : Shaped Severity := ⟨shape, toValue, ofValue, ofValue_toValue⟩

end Severity

/-- A named aspect of the state of a resource. -/
structure Condition where
  type : ConditionType
  status : ConditionStatus
  severity : Severity
  /-- When the status last changed its value. -/
  lastTransitionTime : Option Instant
  reason : String
  message : String
  deriving DecidableEq

namespace Condition

def isTrue (c : Condition) : Bool := c.status = .met

def isFalse (c : Condition) : Bool := c.status = .unmet

def isUnknown (c : Condition) : Bool := c.status = .unknown

def fields : Fields :=
  .cons ⟨"type", "", .required⟩ .string <|
  .cons ⟨"status", "", .required⟩ ConditionStatus.shape <|
  .cons ⟨"severity", "", .omitted⟩ Severity.shape <|
  .cons ⟨"lastTransitionTime", "Set when `status` last changed value.", .omitted⟩
    (.optional .time) <|
  .cons ⟨"reason", "", .omitted⟩ .string <|
  .cons ⟨"message", "", .omitted⟩ .string .nil

def shape : Shape := .record ⟨"Condition", "", .strict⟩ fields

def toValue (c : Condition) : shape.Value :=
  (c.type.name, c.status.toValue, c.severity.toValue, c.lastTransitionTime, c.reason, c.message, ())

def ofValue : shape.Value → Condition
  | (type, status, severity, time, reason, message, ()) =>
    ⟨⟨type⟩, .ofValue status, .ofValue severity, time, reason, message⟩

@[simp] theorem ofValue_toValue (c : Condition) : ofValue c.toValue = c := by
  simp [ofValue, toValue]

instance : Shaped Condition := ⟨shape, toValue, ofValue, ofValue_toValue⟩

end Condition

/-- The first condition of a type. -/
def findCondition? (type : ConditionType) (conditions : List Condition) : Option Condition :=
  conditions.find? fun c => c.type = type

@[simp] theorem findCondition?_nil (type : ConditionType) : findCondition? type [] = none := rfl

theorem findCondition?_cons (type : ConditionType) (c : Condition) (rest : List Condition) :
    findCondition? type (c :: rest) = if c.type = type then some c else findCondition? type rest := by
  by_cases h : c.type = type <;> simp [findCondition?, h]

theorem findCondition?_eq_none {type : ConditionType} {conditions : List Condition} :
    findCondition? type conditions = none ↔ ∀ c ∈ conditions, c.type ≠ type := by
  simp [findCondition?]

theorem type_of_findCondition? {type : ConditionType} {conditions : List Condition} {c : Condition}
    (h : findCondition? type conditions = some c) : c.type = type := by
  simpa using List.find?_some h

/-- A condition of a new type is found under its type, wherever it is put, and hides no other. -/
theorem findCondition?_insertIdx {c : Condition} (other : ConditionType) {place : Nat}
    {conditions : List Condition} (hplace : place ≤ conditions.length)
    (hnew : findCondition? c.type conditions = none) :
    findCondition? other (conditions.insertIdx place c) =
      if other = c.type then some c else findCondition? other conditions := by
  induction conditions generalizing place with
  | nil =>
      have hzero : place = 0 := by simpa using hplace
      simp [hzero, findCondition?_cons, eq_comm]
  | cons d rest ih =>
      have hd : d.type ≠ c.type := findCondition?_eq_none.mp hnew d List.mem_cons_self
      have hrest : findCondition? c.type rest = none := by
        rwa [findCondition?_cons, if_neg hd] at hnew
      cases place with
      | zero => rw [List.insertIdx_zero, findCondition?_cons other c]; simp only [eq_comm]
      | succ place =>
          rw [List.insertIdx_succ_cons, findCondition?_cons,
            ih (by simpa using hplace) hrest, findCondition?_cons]
          by_cases h : other = c.type
          · rw [if_pos h, if_pos h, if_neg (h ▸ hd)]
          · rw [if_neg h, if_neg h]

end StatusRouter
