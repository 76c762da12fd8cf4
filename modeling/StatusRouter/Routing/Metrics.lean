import StatusRouter.Routing.ResourceId

/-!
# Metrics of the index

The index counts the updates and deletions it observes, by the kind of the subordinate, and the keys
that the work queue accepted or refused, by the kind of the owner; a gauge shows how many
subordinates are recorded.  `exposition` writes them in the text form that a collector reads.
-/

namespace StatusRouter

/-- Counters that differ in the value of a label; a counter is there once it has been raised.  A counter
has no bound here, where a program keeps it in 64 bits. -/
structure CounterFamily where
  series : List (String × Nat)
  deriving DecidableEq

namespace CounterFamily

def empty : CounterFamily := ⟨[]⟩

/-- The value of a counter. -/
def count (family : CounterFamily) (label : String) : Nat :=
  (family.series.lookup label).getD 0

/-- Raises the first counter with a label by one, or adds it. -/
def raiseIn (label : String) : List (String × Nat) → List (String × Nat)
  | [] => [(label, 1)]
  | (other, n) :: rest =>
    if other = label then (other, n + 1) :: rest else (other, n) :: raiseIn label rest

/-- Raises a counter by one. -/
def raise (family : CounterFamily) (label : String) : CounterFamily :=
  ⟨raiseIn label family.series⟩

@[simp] theorem count_empty (label : String) : empty.count label = 0 := rfl

/-- A counter that is raised is there, and all others are as they were. -/
theorem lookup_raiseIn (label other : String) (series : List (String × Nat)) :
    (raiseIn label series).lookup other =
      if other = label then some ((series.lookup label).getD 0 + 1) else series.lookup other := by
  induction series with
  | nil => exact lookup_cons_ite other label 1 []
  | cons entry rest ih =>
    obtain ⟨name, n⟩ := entry
    unfold raiseIn
    split
    · rename_i heq
      subst heq
      rw [List.lookup_cons_self, lookup_cons_ite, lookup_cons_ite]
      split <;> rfl
    · rename_i hne
      rw [lookup_cons_ite, lookup_cons_ite, lookup_cons_ite, ih, if_neg (Ne.symm hne)]
      by_cases h : other = name
      · rw [if_pos h, if_pos h, if_neg fun heq => hne (h ▸ heq)]
      · rw [if_neg h, if_neg h]

/-- Raising a counter changes no other one. -/
theorem count_raise (family : CounterFamily) (label other : String) :
    (family.raise label).count other = family.count other + if other = label then 1 else 0 := by
  rw [count, count, raise, lookup_raiseIn]
  split
  · rename_i heq
    rw [heq, Option.getD_some]
  · rw [Nat.add_zero]

end CounterFamily

/-- The metrics of an index. -/
structure IndexMetrics where
  applies : CounterFamily
  deletes : CounterFamily
  enqueued : CounterFamily
  dropped : CounterFamily
  /-- The number of subordinates that are recorded. -/
  size : Nat
  deriving DecidableEq

namespace IndexMetrics

/-- Nothing observed yet. -/
def empty : IndexMetrics := ⟨.empty, .empty, .empty, .empty, 0⟩

/-- An update of a subordinate was observed. -/
def applied (metrics : IndexMetrics) (kind : String) : IndexMetrics :=
  { metrics with applies := metrics.applies.raise kind }

/-- A deletion of a subordinate was observed. -/
def deleted (metrics : IndexMetrics) (kind : String) : IndexMetrics :=
  { metrics with deletes := metrics.deletes.raise kind }

/-- The queue accepted a key. -/
def accepted (metrics : IndexMetrics) (ownerKind : String) : IndexMetrics :=
  { metrics with enqueued := metrics.enqueued.raise ownerKind }

/-- The queue refused a key. -/
def refused (metrics : IndexMetrics) (ownerKind : String) : IndexMetrics :=
  { metrics with dropped := metrics.dropped.raise ownerKind }

/-! ## Exposition -/

/-- The lines that describe a metric. -/
def header (name help type : String) : List String :=
  ["# HELP " ++ name ++ " " ++ help ++ ".", "# TYPE " ++ name ++ " " ++ type]

/-- The text of a family of counters. -/
def familyText (name help label : String) (family : CounterFamily) : List String :=
  header name help "counter" ++ family.series.map fun (value, n) =>
    name ++ "_total\x7b" ++ label ++ "=\"" ++ value ++ "\"\x7d " ++ toString n

/-- The text form of the metrics, without its order; the names begin with a given text. -/
def expositionText (metrics : IndexMetrics) (start : String) : List String :=
  familyText (start ++ "index_applies")
      "Count of subordinate resource updates observed by the index" "kind" metrics.applies ++
    familyText (start ++ "index_deletes")
      "Count of subordinate resource deletions observed by the index" "kind" metrics.deletes ++
    familyText (start ++ "owners_enqueued")
      "Count of owner keys handed to the work queue" "owner_kind" metrics.enqueued ++
    familyText (start ++ "owners_dropped")
      "Count of owner keys the work queue refused" "owner_kind" metrics.dropped ++
    header (start ++ "index_size")
      "Gauge of the number of owned subordinate resources in the index" "gauge" ++
    [start ++ "index_size " ++ toString metrics.size, "# EOF"]

/-- A line without the carriage return at its end. -/
def trimReturn (line : String) : String :=
  match line.toList.reverse with
  | '\r' :: rest => String.ofList rest.reverse
  | _ => line

/-- The lines of the text form, in order.  Names begin with the text of a sub-registry and a low
line, if there is one.  Labels are written as they are, so one may span several lines. -/
def exposition (metrics : IndexMetrics) (registry : Option String) : List String :=
  let start := match registry with
    | none => ""
    | some name => name ++ "_"
  let lines := (metrics.expositionText start).flatMap fun text => text.splitOn "\n"
  (lines.map trimReturn).mergeSort fun a b => decide (a ≤ b)

end IndexMetrics

end StatusRouter
