import StatusRouter.Proofs.Condition.Aggregate
import StatusRouter.Proofs.LastWord

/-!
# Severities and the sets they come from

A condition has the severity that the set of the writing manager gives its type.  A step writes the
aggregate, the type it marks, and, when it initializes, the declared types that are missing; all
other conditions keep the severity they have, also when the step is under another set.  So the
severity of a condition tells of the set of the last step that wrote it, which need not be the set
in effect.

`severity_of_run` says this of every run from the empty list, and when the two sets agree on a
condition.  Where they do not, a condition may block the aggregate although it only informs
(`severity_of_replaced_set`).
-/

namespace StatusRouter

theorem ConditionSet.severity_eq_info_iff {set : ConditionSet} {type : ConditionType} :
    set.severity type = .info ↔ type ∉ set.declared := by
  by_cases h : type ∈ set.declared <;> simp [severity, isDeclared, h]

theorem ConditionSet.severity_eq_severity_iff {set other : ConditionSet} {type : ConditionType} :
    set.severity type = other.severity type ↔ (type ∈ set.declared ↔ type ∈ other.declared) := by
  by_cases h : type ∈ set.declared <;> by_cases hother : type ∈ other.declared <;>
    simp [severity, isDeclared, h, hother]

namespace ConditionManager

variable {step : Step} {type : ConditionType} {before : List Condition}

/-- A step writes the aggregate, and the type that it marks or the types that it adds. -/
def Step.Writes (step : Step) (type : ConditionType) (before : List Condition) : Prop :=
  type = step.manager.set.happy ∨
    match step.operation with
    | .initializing => type ∈ step.manager.missing before
    | .marking marked _ => type = marked

theorem Step.severity_of_writes (h : step.Writes type before) :
    (findCondition? type (step.perform before)).map Condition.severity =
      some (step.manager.set.severity type) := by
  obtain ⟨manager, operation⟩ := step
  by_cases hhappy : type = manager.set.happy
  · subst hhappy
    have hsettled : Settled manager.set (manager.perform before operation) :=
      manager.settled_perform operation
    obtain ⟨c, hc, -, hseverity, -⟩ := hsettled
    rw [Step.perform, hc, Option.map_some, hseverity]
  · have hwrites := h.resolve_left hhappy
    cases operation with
    | initializing =>
        obtain ⟨hdeclared, hnone⟩ := manager.mem_missing.mp hwrites
        have hdependent : type ∈ manager.set.dependents :=
          (List.mem_cons.mp hdeclared).resolve_left hhappy
        simp [Step.perform, ConditionManager.perform,
          findCondition?_initializeConditions manager hhappy, hnone, hdependent, create]
    | marking marked outcome =>
        obtain rfl : type = marked := hwrites
        simp [Step.perform, ConditionManager.perform, findCondition?_mark manager hhappy]

theorem Step.findCondition?_of_not_writes (h : ¬ step.Writes type before) :
    findCondition? type (step.perform before) = findCondition? type before := by
  obtain ⟨manager, operation⟩ := step
  obtain ⟨hhappy, hsilent⟩ := not_or.mp h
  cases operation with
  | initializing =>
      rw [Step.perform, ConditionManager.perform, findCondition?_initializeConditions manager hhappy]
      cases hfind : findCondition? type before with
      | some c => rfl
      | none =>
          have hdependent : type ∉ manager.set.dependents := fun hmem =>
            hsilent (manager.mem_missing.mpr ⟨List.mem_cons_of_mem _ hmem, hfind⟩)
          rw [Option.none_or, if_neg hdependent]
  | marking marked outcome =>
      rw [Step.perform, ConditionManager.perform, findCondition?_mark manager hhappy, if_neg hsilent]

/-- In a run from the empty list, the steps that write a type set its severity. -/
theorem severity_setBy (type : ConditionType) :
    SetBy (fun earlier step => Step.Writes step type (run [] earlier))
      (fun step => some (step.manager.set.severity type))
      (fun steps => (findCondition? type (run [] steps)).map Condition.severity) where
  nil := rfl
  spoken := by
    intro earlier last hwrites
    rw [run_append_singleton, Step.severity_of_writes hwrites]
  silent := by
    intro earlier last hwrites
    rw [run_append_singleton, Step.findCondition?_of_not_writes hwrites]

/-- After the last step of a run from the empty list, every condition has the severity that the set
of the last step that wrote it gives its type.  It is the severity of the set in effect exactly if
the two sets agree on whether they declare the type.  A dependent that is not met blocks the
aggregate, and it does so as a mere information exactly if the set of the step that wrote it did not
declare its type. -/
theorem severity_of_run (earlier : List Step) (last : Step) :
    let after := run [] (earlier ++ [last])
    ∀ c ∈ after, ∃ before writer later,
      LastWord (fun before step => Step.Writes step c.type (run [] before)) (earlier ++ [last])
        before writer later ∧
      c.severity = writer.manager.set.severity c.type ∧
      (c.severity = last.manager.set.severity c.type ↔
        (c.type ∈ writer.manager.set.declared ↔ c.type ∈ last.manager.set.declared)) ∧
      (c.type ∈ last.manager.set.dependents → c.status ≠ .met →
        last.manager.isHappy after = false ∧
          (c.severity = .info ↔ c.type ∉ writer.manager.set.declared)) := by
  intro after c hc
  have hfind : findCondition? c.type after = some c := findCondition?_of_mem nodup_run hc
  have hread : (findCondition? c.type after).map Condition.severity = some c.severity := by
    rw [hfind, Option.map_some]
  obtain ⟨before, writer, later, hlast, hgiven⟩ := (severity_setBy c.type).exists_lastWord hread
  have hseverity : c.severity = writer.manager.set.severity c.type :=
    (Option.some.inj hgiven).symm
  refine ⟨before, writer, later, hlast, hseverity, ?_, fun hdependent hstatus => ⟨?_, ?_⟩⟩
  · rw [hseverity]
    exact ConditionSet.severity_eq_severity_iff
  · -- an aggregate that is met would have every dependent met, this one among them
    by_contra hhappy
    have hmet : AllMet last.manager.set after :=
      (settled_run.isHappy_iff rfl).mp (Bool.not_eq_false _ ▸ hhappy)
    obtain ⟨d, hd, hdstatus⟩ := hmet c.type hdependent
    obtain rfl := Option.some.inj (hfind.symm.trans hd)
    exact hstatus hdstatus
  · rw [hseverity]
    exact ConditionSet.severity_eq_info_iff

/-- A set that declares one condition is replaced by one that declares another as well.  The second
condition was written under the first set, so it keeps to be a mere information, and yet it is what
blocks the aggregate. -/
theorem severity_of_replaced_set :
    let sink : ConditionType := ⟨"SinkProvided"⟩
    let deployed : ConditionType := ⟨"Deployed"⟩
    let last : Step :=
      ⟨⟨.living [sink, deployed], exampleTime 20⟩, .marking sink .met⟩
    let after := run []
      [⟨⟨.living [sink], exampleTime 10⟩, .marking deployed ⟨.unmet, "Broken", ""⟩⟩, last]
    (¬ ∀ c ∈ after,
        c.severity = if c.type ∈ last.manager.set.declared then .error else .info) ∧
      (¬ ∀ c ∈ after, c.type ∈ last.manager.set.dependents → c.status ≠ .met →
        last.manager.isHappy after = false → c.severity ≠ .info) := by
  decide +kernel

/-- What blocks in `severity_of_replaced_set` was written under a set that does not declare it. -/
theorem severity_of_run_of_replaced_set :
    let sink : ConditionType := ⟨"SinkProvided"⟩
    let deployed : ConditionType := ⟨"Deployed"⟩
    let first : Step :=
      ⟨⟨.living [sink], exampleTime 10⟩, .marking deployed ⟨.unmet, "Broken", ""⟩⟩
    let last : Step :=
      ⟨⟨.living [sink, deployed], exampleTime 20⟩, .marking sink .met⟩
    let blocking : Condition := ⟨deployed, .unmet, .info, some (exampleTime 10), "Broken", ""⟩
    blocking ∈ run [] [first, last] ∧ deployed ∈ last.manager.set.dependents ∧
      last.manager.isHappy (run [] [first, last]) = false ∧
      ∃ before writer later,
        LastWord (fun before step => Step.Writes step deployed (run [] before)) [first, last]
          before writer later ∧
        deployed ∉ writer.manager.set.declared := by
  intro sink deployed first last blocking
  have hmem : blocking ∈ run [] [first, last] := by decide +kernel
  have hdependent : deployed ∈ last.manager.set.dependents := by decide
  obtain ⟨before, writer, later, hlast, -, -, hblocks⟩ :=
    severity_of_run [first] last blocking hmem
  obtain ⟨hhappy, hinfo⟩ := hblocks hdependent (by decide)
  exact ⟨hmem, hdependent, hhappy, before, writer, later, hlast, hinfo.mp rfl⟩

end ConditionManager

end StatusRouter
