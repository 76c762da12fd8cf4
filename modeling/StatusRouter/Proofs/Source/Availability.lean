import Mathlib.Logic.ExistsUnique
import StatusRouter.Proofs.Condition.Run
import StatusRouter.SourceStatus

/-!
# What a deployment says of itself

A deployment may have no status, its status no conditions, and the conditions may be of any types
and repeat each other.  What it says of its availability is the text of the first condition of type
`Available`, or nothing (`Deployment.Says`).  Every deployment says one thing and no other
(`Deployment.exists_says`, `Deployment.Says.eq_map_find?`), and this is all that its availability
depends on, next to what is assumed of a deployment that says nothing
(`Deployment.Says.isAvailable_iff`).

So a pass that finds a deployment does one of two things as a whole: it marks the deployment as
available and copies the replicas, or it marks it as unavailable and copies nothing.  Conditions
behind the first one of type `Available`, and conditions of other types, have no say in which
(`deployment_of_first_report`).
-/

namespace StatusRouter

namespace Deployment

/-- The conditions that a deployment reports, if any. -/
def reported (found : Deployment) : List DeploymentCondition :=
  (found.status.bind DeploymentStatus.conditions).getD []

/-- What a deployment says of its availability: the text of the first condition of that type, or
nothing if there is none. -/
inductive Says (found : Deployment) : Option String → Prop
  | first {earlier later : List DeploymentCondition} {c : DeploymentCondition}
      (hreported : found.reported = earlier ++ c :: later)
      (hearlier : ∀ other ∈ earlier, other.type ≠ "Available") (hc : c.type = "Available") :
      Says found (some c.status)
  | nothing (h : ∀ c ∈ found.reported, c.type ≠ "Available") : Says found none

variable {found : Deployment} {said : Option String}

theorem find?_append_cons_of_first {earlier later : List DeploymentCondition}
    {c : DeploymentCondition} (hearlier : ∀ other ∈ earlier, other.type ≠ "Available")
    (hc : c.type = "Available") :
    (earlier ++ c :: later).find? (fun other => other.type = "Available") = some c := by
  have hnone : earlier.find? (fun other => other.type = "Available") = none :=
    List.find?_eq_none.mpr fun other hmem => by simpa using hearlier other hmem
  rw [List.find?_append, hnone, Option.none_or]
  exact List.find?_cons_of_pos (decide_eq_true hc)

/-- What a deployment says is found by looking for the first condition of the type. -/
theorem Says.eq_map_find? (h : found.Says said) :
    said = (found.reported.find? fun c => c.type = "Available").map DeploymentCondition.status := by
  cases h with
  | first hreported hearlier hc =>
      rw [hreported, find?_append_cons_of_first hearlier hc, Option.map_some]
  | nothing h =>
      have hnone : found.reported.find? (fun c => c.type = "Available") = none :=
        List.find?_eq_none.mpr fun c hmem => by simpa using h c hmem
      rw [hnone, Option.map_none]

theorem exists_says (found : Deployment) : ∃ said, found.Says said := by
  cases hfound : found.reported.find? fun c => c.type = "Available" with
  | none =>
      exact ⟨none, .nothing fun c hmem => by simpa using List.find?_eq_none.mp hfound c hmem⟩
  | some c =>
      obtain ⟨hc, earlier, later, hreported, hearlier⟩ :=
        List.find?_eq_some_iff_append.mp hfound
      exact ⟨some c.status, .first hreported (fun other hmem => by simpa using hearlier other hmem)
        (of_decide_eq_true hc)⟩

theorem isAvailable_eq (found : Deployment) (fallback : Bool) :
    (found.status.getD .empty).isAvailable fallback =
      conditionIsTrue found.reported "Available" fallback := by
  obtain ⟨name, status⟩ := found
  cases status <;> rfl

/-- A deployment is available if it says `True`, or if it says nothing and that counts as much. -/
theorem Says.isAvailable_iff (h : found.Says said) (fallback : Bool) :
    (found.status.getD .empty).isAvailable fallback = true ↔
      said = some "True" ∨ said = none ∧ fallback = true := by
  rw [isAvailable_eq, h.eq_map_find?, conditionIsTrue]
  cases found.reported.find? fun c => c.type = "Available" <;> simp

end Deployment

namespace SourceManager

/-- What a pass makes of a deployment, by what the deployment says. -/
theorem perform_deployment (manager : SourceManager) (status : KafkaSourceStatus)
    {found : Deployment} {said : Option String} (h : found.Says said) :
    manager.perform status (.deployment found) =
      if said = some "True" ∨ said = none ∧ manager.availableByDefault = true then
        { status with
          conditions :=
            manager.conditions.mark SourceCondition.deployed ⟨.met, "", ""⟩ status.conditions
          consumers := (found.status.bind DeploymentStatus.replicas).getD 0 }
      else
        { status with
          conditions :=
            manager.conditions.mark SourceCondition.deployed
              ⟨.unmet, "DeploymentUnavailable",
                "The Deployment '" ++ found.name.getD "" ++ "' is unavailable."⟩
              status.conditions } := by
  have hreplicas : (found.status.getD .empty).replicas =
      found.status.bind DeploymentStatus.replicas := by
    cases found.status <;> rfl
  simp only [perform, recordDeployment, hreplicas, h.isAvailable_iff]
  rfl

/-- A pass finds a deployment, which says something of its availability or nothing.  If it says
`True`, or if it says nothing and counts as available then, the pass marks it as such and copies its
replicas, or zero if it reports none.  Otherwise the pass marks it as unavailable, giving its name,
which is empty if there is none, and copies nothing.  No other field of the status changes in either
case.

Another deployment of the same name and with the same replicas, which says the same, leaves the same
status, whatever else it reports; and what is assumed of one that says nothing makes a difference
only if it says nothing. -/
theorem deployment_of_first_report (manager : SourceManager) (status : KafkaSourceStatus)
    (found : Deployment) :
    let mark := fun outcome =>
      manager.conditions.mark SourceCondition.deployed outcome status.conditions
    let reached := manager.perform status (.deployment found)
    (∃! said, found.Says said) ∧
    ∀ said, found.Says said →
      reached =
        (if said = some "True" ∨ said = none ∧ manager.availableByDefault = true then
          { status with
            conditions := mark ⟨.met, "", ""⟩
            consumers := (found.status.bind DeploymentStatus.replicas).getD 0 }
        else
          { status with
            conditions := mark ⟨.unmet, "DeploymentUnavailable",
              "The Deployment '" ++ found.name.getD "" ++ "' is unavailable."⟩ }) ∧
      ∀ (other : Deployment) (otherwise : Bool), other.Says said → other.name = found.name →
        other.status.bind DeploymentStatus.replicas =
          found.status.bind DeploymentStatus.replicas →
        (said = none → otherwise = manager.availableByDefault) →
        SourceManager.perform ⟨manager.conditions, otherwise⟩ status (.deployment other) =
          reached := by
  intro mark reached
  obtain ⟨text, htext⟩ := found.exists_says
  refine ⟨⟨text, htext, fun said hsaid => hsaid.eq_map_find?.trans htext.eq_map_find?.symm⟩,
    fun said hsaid => ⟨manager.perform_deployment status hsaid, ?_⟩⟩
  intro other otherwise hother hname hreplicas hotherwise
  have hsame : said = none ∧ otherwise = true ↔
      said = none ∧ manager.availableByDefault = true :=
    and_congr_right fun hnone => by rw [hotherwise hnone]
  simp only [reached, perform_deployment _ status hother, perform_deployment _ status hsaid,
    hsame, hname, hreplicas]

/-- A deployment says `False` behind a condition of another type, and `True` after that.  It counts
as unavailable, although one that says nothing would count as available.  The same is made of it if
only the first of these conditions is reported, after a repeated one of the other type, and whatever
is assumed.  One that has no status and no name counts as available, and has no replicas. -/
theorem deployment_of_first_report_of_repeated_condition :
    let manager : SourceManager := ⟨⟨SourceCondition.set, ConditionManager.exampleTime 10⟩, true⟩
    let status : KafkaSourceStatus := { KafkaSourceStatus.empty with consumers := 2, claims := "a" }
    let progressing : DeploymentCondition := ⟨"Progressing", "True"⟩
    let found : Deployment :=
      ⟨some "reader",
        some ⟨some 5, some [progressing, ⟨"Available", "False"⟩, ⟨"Available", "True"⟩]⟩⟩
    let other : Deployment :=
      ⟨some "reader", some ⟨some 5, some [progressing, progressing, ⟨"Available", "False"⟩]⟩⟩
    let silent : Deployment := ⟨none, none⟩
    let reached := manager.perform status (.deployment found)
    found.Says (some "False") ∧ other.Says (some "False") ∧ silent.Says none ∧
    reached.consumers = 2 ∧ reached.claims = "a" ∧
    (findCondition? SourceCondition.deployed reached.conditions).map Condition.message =
      some "The Deployment 'reader' is unavailable." ∧
    SourceManager.perform ⟨manager.conditions, false⟩ status (.deployment other) = reached ∧
    (manager.perform status (.deployment silent)).consumers = 0 := by
  intro manager status progressing found other silent reached
  have hfound : found.Says (some "False") :=
    .first (c := ⟨"Available", "False"⟩) (show found.reported = [progressing] ++ _ from rfl)
      (by decide) rfl
  have hother : other.Says (some "False") :=
    .first (c := ⟨"Available", "False"⟩)
      (show other.reported = [progressing, progressing] ++ _ from rfl) (by decide) rfl
  have hsilent : silent.Says none := .nothing (by decide)
  obtain ⟨-, hreports⟩ := deployment_of_first_report manager status found
  obtain ⟨hreached, hothers⟩ := hreports _ hfound
  have hsilence := ((deployment_of_first_report manager status silent).2 _ hsilent).1
  refine ⟨hfound, hother, hsilent, ?_, ?_, ?_, hothers other false hother rfl rfl nofun, ?_⟩
  · exact congrArg KafkaSourceStatus.consumers hreached
  · exact congrArg KafkaSourceStatus.claims hreached
  · refine (congrArg (fun left : KafkaSourceStatus =>
      (findCondition? SourceCondition.deployed left.conditions).map Condition.message)
      hreached).trans ?_
    decide +kernel
  · exact congrArg KafkaSourceStatus.consumers hsilence

end SourceManager

end StatusRouter
