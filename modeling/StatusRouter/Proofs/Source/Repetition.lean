import Mathlib.Data.List.Induction
import StatusRouter.Proofs.Condition.Aggregate
import StatusRouter.Proofs.Source.Call

/-!
# A pass made again changes nothing

Suppose that a pass writes the condition of every type at most once and the claims at most once, and
does not mark the aggregate.  The same pass, made once more on the status it left, leaves that
status as it is, times included, whenever it is made.

The aggregate may change back and forth within the first pass, so the argument is not about what the
pass did but about what it left.  A call is *kept* by a status if the status has all that the call
would bring about: performing a kept call is the identity.  Every call is kept right after it was
performed, and a later call of the pass has another target, so it does not undo it.  At the end all
calls of the pass are kept, and the second pass is a list of identities.
-/

namespace StatusRouter

open ConditionManager

/-- The status has all that a call brings about under a set and a default. -/
structure Kept (set : ConditionSet) (availableByDefault : Bool) (call : SourceCall)
    (status : KafkaSourceStatus) : Prop where
  copied : call.copy availableByDefault status = status
  recorded : ∀ type outcome, call.operation? availableByDefault = some (.marking type outcome) →
    Recorded set type outcome status.conditions
  complete : call.operation? availableByDefault = some .initializing →
    ∀ type ∈ set.declared, findCondition? type status.conditions ≠ none
  settled : call.operation? availableByDefault ≠ none → Settled set status.conditions

section

variable {manager : SourceManager} {call other : SourceCall} {status : KafkaSourceStatus}

/-! ## Kept calls -/

/-- A call is kept when it has been performed, unless it marks the aggregate. -/
theorem kept_perform (hhappy : call.target? ≠ some (.condition manager.conditions.set.happy)) :
    Kept manager.conditions.set manager.availableByDefault call (manager.perform status call) where
  copied := by
    rw [SourceManager.perform_eq, SourceCall.copy_onConditions, SourceCall.copy_copy]
  recorded := by
    intro type outcome hoperation
    have hne : type ≠ manager.conditions.set.happy := by
      rintro rfl
      exact hhappy (SourceCall.target?_of_marked? hoperation rfl)
    rw [SourceManager.conditions_perform, hoperation]
    exact (recorded_setCondition manager.conditions).congr (findCondition?_recompute _ hne)
  complete := by
    intro hoperation type htype
    rw [SourceManager.conditions_perform, hoperation]
    by_cases hne : type = manager.conditions.set.happy
    · subst hne
      exact (settled_perform manager.conditions .initializing).ne_none
    · have hdependent : type ∈ manager.conditions.set.dependents :=
        (List.mem_cons.mp htype).resolve_left hne
      simp [perform?, ConditionManager.perform, findCondition?_initializeConditions _ hne,
        hdependent]
  settled := by
    intro hoperation
    obtain ⟨operation, hoperation⟩ := Option.ne_none_iff_exists'.mp hoperation
    rw [SourceManager.conditions_perform, hoperation]
    exact settled_perform manager.conditions operation

namespace Kept

/-- A call with another target does not undo a call that is kept. -/
theorem perform (h : Kept manager.conditions.set manager.availableByDefault call status)
    (hhappy : call.target? ≠ some (.condition manager.conditions.set.happy))
    (hother : ∀ target, call.target? = some target → other.target? ≠ some target) :
    Kept manager.conditions.set manager.availableByDefault call (manager.perform status other) := by
  have hcopied : call.copy manager.availableByDefault (manager.perform status other) =
      manager.perform status other := by
    have hcomm : ∀ target, other.target? = some target → call.target? ≠ some target :=
      fun target hfirst hsecond => hother target hsecond hfirst
    rw [SourceManager.perform_eq, SourceCall.copy_onConditions, SourceCall.copy_comm status hcomm,
      h.copied]
  cases hnext : other.operation? manager.availableByDefault with
  | none =>
      have hconditions : (manager.perform status other).conditions = status.conditions := by
        rw [SourceManager.conditions_perform, hnext, perform?]
      refine ⟨hcopied, ?_, ?_, ?_⟩ <;> rw [hconditions]
      · exact h.recorded
      · exact h.complete
      · exact h.settled
  | some operation =>
      have hconditions : (manager.perform status other).conditions =
          manager.conditions.perform status.conditions operation := by
        rw [SourceManager.conditions_perform, hnext, perform?]
      refine ⟨hcopied, ?_, ?_, ?_⟩ <;> rw [hconditions]
      · intro type outcome hoperation
        have htarget : call.target? = some (.condition type) :=
          SourceCall.target?_of_marked? hoperation rfl
        have hne : type ≠ manager.conditions.set.happy := by
          rintro rfl
          exact hhappy htarget
        have hmarked : operation.marked? ≠ some type :=
          fun hmarked => hother _ htarget (SourceCall.target?_of_marked? hnext hmarked)
        have hrecorded := h.recorded type outcome hoperation
        exact hrecorded.congr (findCondition?_perform _ hne hmarked hrecorded.ne_none)
      · intro hoperation type htype
        exact findCondition?_perform_ne_none _ (h.complete hoperation type htype)
      · intro _
        exact settled_perform manager.conditions operation

theorem perform_eq_self
    (h : Kept manager.conditions.set manager.availableByDefault call status) :
    manager.perform status call = status := by
  have hconditions :
      manager.conditions.perform? (call.operation? manager.availableByDefault) status.conditions =
        status.conditions := by
    cases hoperation : call.operation? manager.availableByDefault with
    | none => rfl
    | some operation =>
        have hsettled := h.settled (by simp [hoperation])
        cases operation with
        | initializing =>
            exact hsettled.initializeConditions_eq_self
              ((missing_eq_nil_iff _).mpr (h.complete hoperation))
        | marking type outcome =>
            exact hsettled.mark_eq_self (h.recorded type outcome hoperation)
  rw [SourceManager.perform_eq, h.copied, SourceManager.onConditions, hconditions]

end Kept

end

/-! ## Passes -/

namespace SourceManager

variable {pass : List SourceCall}

/-- All calls of a pass are kept at its end. -/
theorem kept_performAll (manager : SourceManager) (status : KafkaSourceStatus)
    (honce : pass.Pairwise fun call other =>
      ∀ target, call.target? = some target → other.target? ≠ some target)
    (hhappy : ∀ call ∈ pass, call.target? ≠ some (.condition manager.conditions.set.happy)) :
    ∀ call ∈ pass, Kept manager.conditions.set manager.availableByDefault call
      (manager.performAll status pass) := by
  induction pass using List.reverseRecOn with
  | nil => simp
  | append_singleton pass last ih =>
      obtain ⟨hpass, -, hlast⟩ := List.pairwise_append.mp honce
      intro call hcall
      have hcallHappy := hhappy call hcall
      rw [performAll, List.foldl_append, List.foldl_cons, List.foldl_nil]
      rcases List.mem_append.mp hcall with hmem | hmem
      · have hkept := ih hpass (fun call hcall => hhappy call (by simp [hcall])) call hmem
        exact hkept.perform hcallHappy (hlast call hmem last (by simp))
      · obtain rfl := List.mem_singleton.mp hmem
        exact kept_perform hcallHappy

theorem performAll_eq_self {manager : SourceManager} {status : KafkaSourceStatus}
    (h : ∀ call ∈ pass, Kept manager.conditions.set manager.availableByDefault call status) :
    manager.performAll status pass = status := by
  induction pass with
  | nil => rfl
  | cons call rest ih =>
      rw [performAll, List.foldl_cons, (h call List.mem_cons_self).perform_eq_self]
      exact ih fun other hother => h other (List.mem_cons_of_mem call hother)

/-- A pass that writes every type and the claims at most once, and does not mark the aggregate,
changes nothing when it is made again with the same set and the same default, whatever the
timestamps. -/
theorem performAll_performAll (set : ConditionSet) (availableByDefault : Bool)
    (first again : Instant) {pass : List SourceCall}
    (honce : (pass.filterMap SourceCall.target?).Nodup)
    (hhappy : .condition set.happy ∉ pass.filterMap SourceCall.target?)
    (status : KafkaSourceStatus) :
    let reached := performAll ⟨⟨set, first⟩, availableByDefault⟩ status pass
    performAll ⟨⟨set, again⟩, availableByDefault⟩ reached pass = reached := by
  intro reached
  have hpairwise : pass.Pairwise fun call other =>
      ∀ target, call.target? = some target → other.target? ≠ some target := by
    refine (List.pairwise_filterMap.mp honce).imp fun hne target hcall hother => ?_
    exact hne target hcall target hother rfl
  have hnotHappy : ∀ call ∈ pass, call.target? ≠ some (.condition set.happy) :=
    fun call hcall htarget => hhappy (List.mem_filterMap.mpr ⟨call, hcall, htarget⟩)
  have hkept := kept_performAll ⟨⟨set, first⟩, availableByDefault⟩ status hpairwise hnotHappy
  exact performAll_eq_self hkept

/-- In this pass the aggregate becomes met and then unknown once more, so its time moves to the
first timestamp.  The same pass made again does not move it any further. -/
theorem performAll_performAll_of_flapping_pass :
    let set : ConditionSet := .living [SourceCondition.sinkProvided, SourceCondition.deployed]
    let status : KafkaSourceStatus :=
      { KafkaSourceStatus.empty with
        conditions :=
          [⟨SourceCondition.sinkProvided, .unknown, .error, none, "", ""⟩,
            ⟨.ready, .unknown, .error, some (exampleTime 10), "", ""⟩,
            ⟨SourceCondition.deployed, .met, .info, some (exampleTime 10), "", ""⟩,
            ⟨SourceCondition.deployed, .unmet, .error, none, "", ""⟩] }
    let pass : List SourceCall :=
      [.sink ⟨none, some "http://sink", none, some "audience"⟩, .initializing,
        .deploying "RollingOut" "", .claims "0-2", .initializing]
    let reached := performAll ⟨⟨set, exampleTime 20⟩, false⟩ status pass
    (pass.filterMap SourceCall.target?).Nodup ∧
      .condition set.happy ∉ pass.filterMap SourceCall.target? ∧
      findCondition? .ready reached.conditions =
        some ⟨.ready, .unknown, .error, some (exampleTime 20), "RollingOut", ""⟩ ∧
      performAll ⟨⟨set, exampleTime 30⟩, false⟩ reached pass = reached := by
  intro set status pass reached
  have honce : (pass.filterMap SourceCall.target?).Nodup := by decide
  have hhappy : .condition set.happy ∉ pass.filterMap SourceCall.target? := by decide
  exact ⟨honce, hhappy, by decide +kernel,
    performAll_performAll set false (exampleTime 20) (exampleTime 30) honce hhappy status⟩

end SourceManager

end StatusRouter
