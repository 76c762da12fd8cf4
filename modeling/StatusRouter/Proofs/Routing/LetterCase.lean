import Mathlib.Data.List.Forall2
import StatusRouter.Routing.OwnerKind

/-!
# The case of the letters of a kind

A kind of owners is put into small letters when it is made, and the kinds of references are compared
with it without regard to case.  Both fold the letters from `A` to `Z` and no others, so they agree:
two kinds are the same after folding just if one is a `CaseVariant` of the other
(`caseVariant_iff_map_toLower`), that is, if they have the same length and the same letters up to
the case of those from `A` to `Z`.

It follows that a kind of owners stands for all case variants of its text: these are what it selects
(`OwnerKind.selects_ofKind_iff`), and each of them makes the same kind of owners
(`OwnerKind.ofKind_eq_ofKind_iff`).
-/

namespace StatusRouter

/-! ## Case variants -/

/-- Two characters are the same, or one is a letter from `A` to `Z` and the other is its small
letter, which stands 32 places behind it. -/
inductive SameLetter : Char → Char → Prop
  | same (c : Char) : SameLetter c c
  | small {c d : Char} (hc : 'A'.toNat ≤ c.toNat ∧ c.toNat ≤ 'Z'.toNat)
      (hd : d.toNat = c.toNat + 32) : SameLetter c d
  | capital {c d : Char} (hd : 'A'.toNat ≤ d.toNat ∧ d.toNat ≤ 'Z'.toNat)
      (hc : c.toNat = d.toNat + 32) : SameLetter c d

theorem toNat_toLower (c : Char) :
    c.toLower.toNat =
      if 'A'.toNat ≤ c.toNat ∧ c.toNat ≤ 'Z'.toNat then c.toNat + 32 else c.toNat := by
  unfold Char.toLower
  by_cases hc : 'A'.toNat ≤ c.toNat ∧ c.toNat ≤ 'Z'.toNat
  · have hval : c.val ≥ 'A'.val ∧ c.val ≤ 'Z'.val := hc
    have hlt : c.val.toNat + 32 < 2 ^ 32 := by
      have hle : c.val.toNat ≤ 90 := hc.2
      omega
    rw [if_pos hc, dif_pos hval]
    exact (UInt32.toNat_add c.val 32).trans (Nat.mod_eq_of_lt hlt)
  · have hval : ¬ (c.val ≥ 'A'.val ∧ c.val ≤ 'Z'.val) := hc
    rw [if_neg hc, dif_neg hval]

theorem toLower_eq_toLower_iff {c d : Char} : c.toLower = d.toLower ↔ SameLetter c d := by
  rw [← Char.toNat_inj, toNat_toLower, toNat_toLower]
  constructor
  · intro h
    split at h <;> split at h
    · rename_i hc hd
      obtain rfl : c = d := Char.toNat_inj.mp (Nat.add_right_cancel h)
      exact .same c
    · rename_i hc _
      exact .small hc h.symm
    · rename_i _ hd
      exact .capital hd h
    · obtain rfl : c = d := Char.toNat_inj.mp h
      exact .same c
  · intro h
    cases h with
    | same => rfl
    | small hc hd =>
        have hsmall : ¬ ('A'.toNat ≤ d.toNat ∧ d.toNat ≤ 'Z'.toNat) := by
          simp only [Char.reduceToNat] at hc ⊢
          omega
        rw [if_pos hc, if_neg hsmall, hd]
    | capital hd hc =>
        have hsmall : ¬ ('A'.toNat ≤ c.toNat ∧ c.toNat ≤ 'Z'.toNat) := by
          simp only [Char.reduceToNat] at hd ⊢
          omega
        rw [if_neg hsmall, if_pos hd, hc]

/-- Two texts have the same length, and the same characters up to the case of the letters from `A`
to `Z`. -/
structure CaseVariant (a b : String) : Prop where
  length : a.length = b.length
  letters : ∀ (place : Nat) (c d : Char),
    a.toList[place]? = some c → b.toList[place]? = some d → SameLetter c d

variable {a b : String}

theorem caseVariant_iff_map_toLower :
    CaseVariant a b ↔ a.toList.map Char.toLower = b.toList.map Char.toLower := by
  constructor
  · intro h
    refine List.ext_getElem? fun place => ?_
    rw [List.getElem?_map, List.getElem?_map]
    cases hc : a.toList[place]? with
    | none =>
        have hend : b.toList[place]? = none := by
          rw [List.getElem?_eq_none_iff, String.length_toList] at hc ⊢
          exact Nat.le_trans (Nat.le_of_eq h.length.symm) hc
        rw [hend]
    | some c =>
        have hplace : place < b.toList.length := by
          rw [String.length_toList, ← h.length, ← String.length_toList]
          exact (List.getElem?_eq_some_iff.mp hc).1
        have hd : b.toList[place]? = some b.toList[place] := List.getElem?_eq_getElem hplace
        rw [hd, Option.map_some, Option.map_some,
          toLower_eq_toLower_iff.mpr (h.letters place c _ hc hd)]
  · intro h
    have hlength := congrArg List.length h
    rw [List.length_map, List.length_map, String.length_toList, String.length_toList] at hlength
    refine ⟨hlength, fun place c d hc hd => toLower_eq_toLower_iff.mp ?_⟩
    have hplace := congrArg (·[place]?) h
    simpa only [List.getElem?_map, hc, hd, Option.map_some, Option.some.injEq] using hplace

theorem CaseVariant.refl (a : String) : CaseVariant a a :=
  caseVariant_iff_map_toLower.mpr rfl

theorem CaseVariant.symm (h : CaseVariant a b) : CaseVariant b a :=
  caseVariant_iff_map_toLower.mpr (caseVariant_iff_map_toLower.mp h).symm

theorem CaseVariant.trans {c : String} (h : CaseVariant a b) (h' : CaseVariant b c) :
    CaseVariant a c :=
  caseVariant_iff_map_toLower.mpr
    ((caseVariant_iff_map_toLower.mp h).trans (caseVariant_iff_map_toLower.mp h'))

theorem sameIgnoringCase_iff : sameIgnoringCase a b ↔ CaseVariant a b := by
  rw [caseVariant_iff_map_toLower, sameIgnoringCase, beq_iff_eq]

/-- The same owner, with its kind written in another case. -/
def OwnerVariant (owner other : Owner) : Prop :=
  other.name = owner.name ∧ CaseVariant owner.kind other.kind

/-! ## Kinds of owners -/

namespace OwnerKind

/-- Small letters have no smaller ones. -/
theorem toLower_toLower (c : Char) : c.toLower.toLower = c.toLower := by
  rw [← Char.toNat_inj, toNat_toLower, toNat_toLower]
  simp only [Char.reduceToNat]
  split_ifs <;> omega

theorem toList_text_ofKind (a : String) : (ofKind a).text.toList = a.toList.map Char.toLower :=
  String.toList_ofList

theorem caseVariant_text_ofKind (a : String) : CaseVariant (ofKind a).text a := by
  rw [caseVariant_iff_map_toLower, toList_text_ofKind, List.map_map]
  exact List.map_congr_left fun c _ => toLower_toLower c

theorem selects_ofKind_iff {owner : Owner} :
    (ofKind a).selects owner ↔ CaseVariant a owner.kind := by
  rw [selects, sameIgnoringCase_iff]
  exact ⟨fun h => (h.trans (caseVariant_text_ofKind a)).symm,
    fun h => (h.symm.trans (caseVariant_text_ofKind a).symm)⟩

theorem ofKind_eq_ofKind_iff : ofKind a = ofKind b ↔ CaseVariant a b := by
  rw [caseVariant_iff_map_toLower, ofKind, ofKind, OwnerKind.mk.injEq, String.ofList_inj]

/-! ## Resources whose owners are written in another case -/

section Variants

variable {owners others : List Owner}

theorem selects_of_variant {owner other : Owner} (hkind : CaseVariant a b)
    (howner : OwnerVariant owner other) :
    (ofKind a).selects owner = (ofKind b).selects other := by
  rw [Bool.eq_iff_iff, selects_ofKind_iff, selects_ofKind_iff]
  exact ⟨fun h => (hkind.symm.trans h).trans howner.2,
    fun h => (hkind.trans h).trans howner.2.symm⟩

theorem any_selects_of_variants (hkind : CaseVariant a b)
    (howners : List.Forall₂ OwnerVariant owners others) :
    owners.any (ofKind a).selects = others.any (ofKind b).selects := by
  induction howners with
  | nil => rfl
  | cons howner _ ih => rw [List.any_cons, List.any_cons, selects_of_variant hkind howner, ih]

theorem map_name_filter_of_variants (hkind : CaseVariant a b)
    (howners : List.Forall₂ OwnerVariant owners others) :
    (owners.filter (ofKind a).selects).map Owner.name =
      (others.filter (ofKind b).selects).map Owner.name := by
  induction howners with
  | nil => rfl
  | cons howner _ ih =>
      rw [List.filter_cons, List.filter_cons, selects_of_variant hkind howner]
      split
      · rw [List.map_cons, List.map_cons, ih, howner.1]
      · exact ih

/-- Of the selected owners, the route of a resource depends on the names only. -/
theorem route_of_variants (hkind : CaseVariant a b) {resource : Subordinate}
    (howners : List.Forall₂ OwnerVariant resource.owners others) :
    (ofKind a).route resource = (ofKind b).route { resource with owners := others } := by
  unfold route
  cases resource.namespace with
  | none => rfl
  | some ns =>
      have hnames := congrArg (List.map (ResourceId.mk ns))
        (map_name_filter_of_variants hkind howners)
      rwa [List.map_map, List.map_map] at hnames

end Variants

/-- A kind of owners selects the owners whose kind has the same length as the text it was made of
and the same characters, up to the case of the letters from `A` to `Z`; other letters are not
folded.  So if the text and the kinds of the owners of a resource are written in any other case, the
kind owns the resource or does not as before, the route is the same, and so is what comes of
enqueueing it, on any queue.

Two kinds of owners are equal just if they select the same owners of every resource, and a kind of
owners made of the text of another one is that one. -/
theorem ofKind_selects_case_variants (a b : String) :
    (∀ owner : Owner, (ofKind a).selects owner = true ↔
      a.length = owner.kind.length ∧
      ∀ (place : Nat) (c d : Char), a.toList[place]? = some c →
        owner.kind.toList[place]? = some d → SameLetter c d) ∧
    (CaseVariant a b → ∀ (resource : Subordinate) (others : List Owner),
      List.Forall₂ OwnerVariant resource.owners others →
      let variant := { resource with owners := others }
      (ofKind b).isOwnerOf variant = (ofKind a).isOwnerOf resource ∧
      (ofKind b).route variant = (ofKind a).route resource ∧
      ∀ queue, (ofKind b).enqueue variant queue = (ofKind a).enqueue resource queue) ∧
    (ofKind a = ofKind b ↔ ∀ resource : Subordinate,
      resource.owners.filter (ofKind a).selects = resource.owners.filter (ofKind b).selects) ∧
    ofKind (ofKind a).text = ofKind a := by
  refine ⟨fun owner => ?_, fun hkind resource others howners => ?_, ?_, ?_⟩
  · exact selects_ofKind_iff.trans ⟨fun h => ⟨h.length, h.letters⟩, fun h => ⟨h.1, h.2⟩⟩
  · have hroute := route_of_variants hkind howners
    refine ⟨(any_selects_of_variants hkind howners).symm, hroute.symm, fun queue => ?_⟩
    rw [enqueue, enqueue, hroute, ofKind_eq_ofKind_iff.mpr hkind]
  · refine ⟨fun heq resource => by rw [heq], fun hselected => ?_⟩
    -- a resource with one owner of the first kind, which the second kind has to select as well
    let owner : Owner := ⟨a, ""⟩
    have hfirst : (ofKind a).selects owner = true := selects_ofKind_iff.mpr (.refl a)
    have hsecond : (ofKind b).selects owner = true := by
      have hfilter := hselected ⟨"", none, none, none, [owner]⟩
      simp only [List.filter_cons_of_pos hfirst, List.filter_nil] at hfilter
      exact (List.mem_filter.mp (hfilter ▸ List.mem_singleton_self owner)).2
    exact ofKind_eq_ofKind_iff.mpr (selects_ofKind_iff.mp hsecond).symm
  · exact ofKind_eq_ofKind_iff.mpr (caseVariant_text_ofKind a)

/-- A group refers to two sources and to a deployment between them, and to another kind that begins
with a letter that is not folded.  The kinds of the references and the kind to look for are written
in other cases, and the same two keys are routed and enqueued. -/
theorem ofKind_selects_case_variants_of_mixed_references :
    let group : Subordinate :=
      ⟨"ConsumerGroup", some "ns", some "group", none,
        [⟨"KafkaSource", "a"⟩, ⟨"Deployment", "b"⟩, ⟨"kafkaSOURCE", "c"⟩, ⟨"ÉtatSource", "d"⟩]⟩
    let others : List Owner :=
      [⟨"KAFKASOURCE", "a"⟩, ⟨"deployment", "b"⟩, ⟨"kafkasource", "c"⟩, ⟨"Étatsource", "d"⟩]
    let variant : Subordinate := { group with owners := others }
    let queue : WorkQueue := ⟨some 2, [], false⟩
    CaseVariant "kafkaSource" "KafkaSource" ∧ List.Forall₂ OwnerVariant group.owners others ∧
    (ofKind "KafkaSource").isOwnerOf variant = true ∧
    (ofKind "KafkaSource").route variant = [⟨"ns", "a"⟩, ⟨"ns", "c"⟩] ∧
    ((ofKind "KafkaSource").enqueue variant queue).accepted = 2 ∧
    (ofKind "ÉTATSOURCE").selects ⟨"ÉtatSource", "d"⟩ = true ∧
    (ofKind "ÉTATSOURCE").selects ⟨"étatsource", "d"⟩ = false := by
  intro group others variant queue
  have hkind : CaseVariant "kafkaSource" "KafkaSource" :=
    caseVariant_iff_map_toLower.mpr (by decide +kernel)
  have howners : List.Forall₂ OwnerVariant group.owners others :=
    .cons ⟨rfl, caseVariant_iff_map_toLower.mpr (by decide +kernel)⟩ <|
    .cons ⟨rfl, caseVariant_iff_map_toLower.mpr (by decide +kernel)⟩ <|
    .cons ⟨rfl, caseVariant_iff_map_toLower.mpr (by decide +kernel)⟩ <|
    .cons ⟨rfl, caseVariant_iff_map_toLower.mpr (by decide +kernel)⟩ .nil
  obtain ⟨-, hvariants, -, -⟩ := ofKind_selects_case_variants "kafkaSource" "KafkaSource"
  obtain ⟨howner, hroute, henqueue⟩ := hvariants hkind group others howners
  refine ⟨hkind, howners, howner.trans (by decide +kernel), hroute.trans (by decide +kernel),
    ?_, by decide +kernel, by decide +kernel⟩
  rw [henqueue queue]
  decide +kernel

end OwnerKind

end StatusRouter
