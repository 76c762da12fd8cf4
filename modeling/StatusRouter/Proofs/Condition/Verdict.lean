import StatusRouter.Proofs.Condition.Aggregate

/-!
# A list of conditions as a map of verdicts

What a list says of a type, and how much it matters, is its verdict on the type.  On the types other
than the aggregate, a manager that works on a list works on a map of verdicts: a mark puts a verdict
under its type, initializing puts one under each dependent that has none, and the verdicts on all
other types stay (`verdict?_perform`).  Where the list is changed, how often it has a type, and what
the aggregate says on the way are not seen.

So the verdict after a run of managers of one set is known without the list (`Verdict.ofRun?`): it is
that of the last mark; without a mark it is the one from before the run; and if there was none, a
declared type is unknown from the first time the conditions are initialized.
-/

namespace StatusRouter

open ConditionManager (Operation Step run)

/-- What is said of a condition, and how much it matters. -/
structure Verdict where
  outcome : Outcome
  severity : Severity
  deriving DecidableEq

def Condition.verdict (c : Condition) : Verdict := ⟨c.outcome, c.severity⟩

/-- The verdict of a list on a type: that of the first condition of the type. -/
def verdict? (type : ConditionType) (conditions : List Condition) : Option Verdict :=
  (findCondition? type conditions).map Condition.verdict

/-- The outcome that an operation gives to a type, if it marks it. -/
def ConditionManager.Operation.given? (type : ConditionType) : Operation → Option Outcome
  | .initializing => none
  | .marking marked outcome => if type = marked then some outcome else none

/-- The outcome that the last mark of a type gives. -/
def lastMark? (type : ConditionType) (operations : List Operation) : Option Outcome :=
  (operations.filterMap (Operation.given? type)).getLast?

/-- The ways to mark a type, and the outcomes that they give. -/
def marksOf (type : ConditionType) (reason message : String) : List (Operation × Outcome) :=
  [(.markTrue type, ⟨.met, "", ""⟩),
    (.markTrueWithReason type reason message, ⟨.met, reason, message⟩),
    (.markFalse type reason message, ⟨.unmet, reason, message⟩),
    (.markUnknown type reason message, ⟨.unknown, reason, message⟩)]

namespace Verdict

/-- The verdict on a type after an operation under a set. -/
def next? (set : ConditionSet) (type : ConditionType) (before : Option Verdict) :
    Operation → Option Verdict
  | .initializing => before.or (if type ∈ set.declared then some ⟨.unknown, .error⟩ else none)
  | .marking marked outcome => if type = marked then some ⟨outcome, set.severity type⟩ else before

/-- The verdict on a type after operations under a set: that of the last mark; else the one from
before; else, if the type is declared and the conditions were initialized, unknown. -/
def ofRun? (set : ConditionSet) (type : ConditionType) (before : Option Verdict)
    (operations : List Operation) : Option Verdict :=
  match lastMark? type operations with
  | some outcome => some ⟨outcome, set.severity type⟩
  | none =>
    before.or
      (if type ∈ set.declared ∧ .initializing ∈ operations then some ⟨.unknown, .error⟩ else none)

end Verdict

section

variable {set : ConditionSet} {type : ConditionType} {operations : List Operation}
  {operation : Operation} {before : Option Verdict}

theorem lastMark?_append_singleton :
    lastMark? type (operations ++ [operation]) =
      (operation.given? type).or (lastMark? type operations) := by
  unfold lastMark?
  cases hgiven : operation.given? type <;> simp [hgiven]

theorem lastMark?_eq_none_iff :
    lastMark? type operations = none ↔
      ∀ operation ∈ operations, operation.marked? ≠ some type := by
  unfold lastMark?
  rw [List.getLast?_eq_none_iff, List.filterMap_eq_nil_iff]
  refine forall₂_congr fun operation _ => ?_
  cases operation with
  | initializing => simp [Operation.given?, Operation.marked?]
  | marking marked outcome => simp [Operation.given?, Operation.marked?, eq_comm]

theorem given?_of_mem_marksOf {reason message : String} {outcome : Outcome}
    (h : (operation, outcome) ∈ marksOf type reason message) :
    operation.given? type = some outcome := by
  simp only [marksOf, List.mem_cons, List.not_mem_nil, or_false, Prod.mk.injEq] at h
  rcases h with ⟨rfl, rfl⟩ | ⟨rfl, rfl⟩ | ⟨rfl, rfl⟩ | ⟨rfl, rfl⟩ <;> exact if_pos rfl

theorem lastMark?_append_cons {outcome : Outcome} {earlier later : List Operation}
    (hgiven : operation.given? type = some outcome)
    (hlater : ∀ operation ∈ later, operation.marked? ≠ some type) :
    lastMark? type (earlier ++ operation :: later) = some outcome := by
  have hnone : later.filterMap (Operation.given? type) = [] :=
    List.getLast?_eq_none_iff.mp (lastMark?_eq_none_iff.mpr hlater)
  rw [lastMark?, List.filterMap_append, List.filterMap_cons_some hgiven, hnone]
  exact List.getLast?_concat

theorem Verdict.ofRun?_append_singleton :
    ofRun? set type before (operations ++ [operation]) =
      next? set type (ofRun? set type before operations) operation := by
  unfold ofRun?
  rw [lastMark?_append_singleton]
  cases operation with
  | initializing =>
      cases hmark : lastMark? type operations with
      | some outcome => simp [Operation.given?, next?]
      | none =>
          -- the conditions may have been initialized before, which leaves the same verdict
          cases before <;>
            by_cases hdeclared : type ∈ set.declared <;>
            by_cases hearlier : .initializing ∈ operations <;>
            simp [Operation.given?, next?, hdeclared, hearlier]
  | marking marked outcome =>
      by_cases hmarked : type = marked
      · simp [Operation.given?, next?, hmarked]
      · simp [Operation.given?, next?, hmarked]

theorem Verdict.foldl_next? : operations.foldl (next? set type) before =
    ofRun? set type before operations := by
  induction operations using List.reverseRecOn with
  | nil => simp [ofRun?, lastMark?]
  | append_singleton operations operation ih =>
      rw [List.foldl_append, ih, ofRun?_append_singleton]
      rfl

end

namespace ConditionManager

variable {manager : ConditionManager} {set : ConditionSet} {type : ConditionType}
  {conditions initial : List Condition} {steps : List Step}

/-- An operation works on the verdict on a type, without regard to what else is in the list. -/
theorem verdict?_perform (htype : type ≠ manager.set.happy) (operation : Operation) :
    verdict? type (manager.perform conditions operation) =
      Verdict.next? manager.set type (verdict? type conditions) operation := by
  unfold verdict?
  cases operation with
  | initializing =>
      have hdeclared : type ∈ manager.set.declared ↔ type ∈ manager.set.dependents := by
        simp [ConditionSet.declared, htype]
      rw [perform, findCondition?_initializeConditions manager htype, Verdict.next?]
      cases findCondition? type conditions with
      | some c => rfl
      | none =>
          by_cases hmem : type ∈ manager.set.dependents
          · have hseverity : manager.set.severity type = .error := by
              rw [ConditionSet.severity_eq_error_iff, ConditionSet.isDeclared_iff]
              exact Or.inr hmem
            simp [hdeclared, hmem, create, Condition.verdict, Condition.outcome, hseverity,
              Outcome.unknown]
          · simp [hdeclared, hmem]
  | marking marked outcome =>
      rw [perform, findCondition?_mark manager htype, Verdict.next?]
      by_cases hmarked : type = marked
      · subst hmarked
        simp [Condition.verdict]
      · rw [if_neg hmarked, if_neg hmarked]

theorem verdict?_run (hset : ∀ step ∈ steps, step.manager.set = set) (htype : type ≠ set.happy) :
    verdict? type (run initial steps) =
      Verdict.ofRun? set type (verdict? type initial) (steps.map Step.operation) := by
  rw [← Verdict.foldl_next?]
  induction steps generalizing initial with
  | nil => rfl
  | cons step rest ih =>
      obtain ⟨rfl, hrest⟩ := List.forall_mem_cons.mp hset
      have hstep : verdict? type (step.perform initial) =
          Verdict.next? step.manager.set type (verdict? type initial) step.operation :=
        verdict?_perform htype step.operation
      rw [List.map_cons, List.foldl_cons, ← hstep, ← ih hrest]
      rfl

theorem findCondition?_run_of_not_marked {c : Condition}
    (hset : ∀ step ∈ steps, step.manager.set = set) (htype : type ≠ set.happy)
    (hmarked : ∀ step ∈ steps, step.operation.marked? ≠ some type)
    (hfind : findCondition? type initial = some c) :
    findCondition? type (run initial steps) = some c := by
  induction steps generalizing initial with
  | nil => exact hfind
  | cons step rest ih =>
      obtain ⟨rfl, hsets⟩ := List.forall_mem_cons.mp hset
      obtain ⟨hfirst, hlater⟩ := List.forall_mem_cons.mp hmarked
      have hkept : findCondition? type (step.perform initial) = findCondition? type initial :=
        step.manager.findCondition?_perform htype hfirst (by simp [hfind])
      exact ih hsets hlater (hkept.trans hfind)

/-- After a run of managers of one set, whatever their timestamps, the verdict on every type other
than the aggregate is that of the last mark of the type, with the severity that the set gives to the
type: a condition that is marked true is met without words, and the other marks have the reason and
the message that were given.  If there was no mark, the first condition of the type is there as it was
before the run; and if there was none of these either, a declared type that was initialized is unknown,
and all others have no verdict.  After any operation, who reads the aggregate finds it met exactly if
these verdicts on the dependents are all met. -/
theorem verdicts_of_run (set : ConditionSet) (initial : List Condition) {steps : List Step}
    (hset : ∀ step ∈ steps, step.manager.set = set) :
    let after := run initial steps
    let verdict (type : ConditionType) : Option Verdict :=
      Verdict.ofRun? set type (verdict? type initial) (steps.map Step.operation)
    (∀ type, type ≠ set.happy → verdict? type after = verdict type) ∧
    (∀ type reason message earlier mark outcome later, type ≠ set.happy →
      (mark, outcome) ∈ marksOf type reason message →
      steps.map Step.operation = earlier ++ mark :: later →
      (∀ operation ∈ later, operation.marked? ≠ some type) →
        verdict? type after = some ⟨outcome, set.severity type⟩) ∧
    (∀ type c, type ≠ set.happy → lastMark? type (steps.map Step.operation) = none →
      findCondition? type initial = some c → findCondition? type after = some c) ∧
    (steps ≠ [] → ∀ now : Instant, (ConditionManager.mk set now).isHappy after = true ↔
      ∀ type ∈ set.dependents, ∃ found, verdict type = some found ∧ found.outcome.status = .met) := by
  intro after verdict
  refine ⟨fun type htype => verdict?_run hset htype, ?_, ?_, ?_⟩
  · intro type reason message earlier mark outcome later htype hmark hsteps hlater
    have hlast : lastMark? type (steps.map Step.operation) = some outcome :=
      hsteps ▸ lastMark?_append_cons (given?_of_mem_marksOf hmark) hlater
    rw [verdict?_run hset htype, Verdict.ofRun?, hlast]
  · intro type c htype hlast hfind
    refine findCondition?_run_of_not_marked hset htype (fun step hstep => ?_) hfind
    exact lastMark?_eq_none_iff.mp hlast _ (List.mem_map_of_mem hstep)
  · intro hne now
    have hsettled : Settled set after := settled_run_of_ne_nil hset hne
    rw [hsettled.isHappy_iff rfl, AllMet]
    refine forall₂_congr fun type hdependent => ?_
    have htype : type ≠ set.happy := fun heq => set.happy_notMem (heq ▸ hdependent)
    have hverdict : verdict type = verdict? type after := (verdict?_run hset htype).symm
    rw [hverdict, verdict?]
    cases findCondition? type after <;> simp [Condition.verdict, Condition.outcome]

/-- A run of three managers on a list that has a type twice.  The first condition of that type is the
one that counts, a later mark takes back an earlier one, and the timestamps do not matter. -/
theorem verdicts_of_run_of_repeated_type :
    let first : Condition := ⟨⟨"First"⟩, .met, .info, none, "Seen", "before"⟩
    let repeated : Condition := ⟨⟨"First"⟩, .unmet, .error, none, "Broken", ""⟩
    let set : ConditionSet := .living [⟨"Third"⟩, ⟨"Second"⟩, ⟨"First"⟩]
    let managerAt (time : Fin 60) : ConditionManager := ⟨set, exampleTime time⟩
    let steps : List Step :=
      [⟨managerAt 30, .markFalse ⟨"Second"⟩ "Broken" ""⟩, ⟨managerAt 10, .initializing⟩,
        ⟨managerAt 20, .markTrue ⟨"Second"⟩⟩]
    let after := run [first, repeated] steps
    (∀ step ∈ steps, step.manager.set = set) ∧
      findCondition? ⟨"First"⟩ after = some first ∧
      verdict? ⟨"Second"⟩ after = some ⟨.met, .error⟩ ∧
      verdict? ⟨"Third"⟩ after = some ⟨.unknown, .error⟩ ∧
      (managerAt 40).isHappy after = false := by
  intro first repeated set managerAt steps after
  have hset : ∀ step ∈ steps, step.manager.set = set := by decide
  obtain ⟨hverdict, hmarked, hkept, hhappy⟩ := verdicts_of_run set [first, repeated] hset
  have hthird : Verdict.ofRun? set ⟨"Third"⟩ (verdict? ⟨"Third"⟩ [first, repeated])
      (steps.map Step.operation) = some ⟨.unknown, .error⟩ := by decide
  refine ⟨hset, hkept ⟨"First"⟩ first (by decide) (by decide) rfl, ?_,
    (hverdict ⟨"Third"⟩ (by decide)).trans hthird, ?_⟩
  · -- it was marked last by the third manager
    exact hmarked ⟨"Second"⟩ "" "" ((steps.map Step.operation).take 2) (.markTrue ⟨"Second"⟩)
      ⟨.met, "", ""⟩ [] (by decide) (by decide) rfl (by simp)
  · -- the third dependent is there, and it is not met
    refine Bool.eq_false_iff.mpr fun htrue => ?_
    obtain ⟨found, hfound, hmet⟩ :=
      (hhappy (List.cons_ne_nil _ _) (exampleTime 40)).mp htrue ⟨"Third"⟩ (by decide)
    obtain rfl := Option.some.inj (hthird.symm.trans hfound)
    exact absurd hmet (by decide)

end ConditionManager

end StatusRouter
