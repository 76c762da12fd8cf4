import StatusRouter.Proofs.Routing.Commutation
import StatusRouter.Proofs.Routing.Record

/-!
# Kinds of subordinates share keys

An index takes in subordinates of all kinds, and a record is kept under a key, which does not tell
the kind.  So subordinates of different kinds that have the same namespace and name share one record.
It is that of the kind that was edited last under the key, and an edit of any kind takes the record
over from the kind that had it: the owners of the other subordinate are offered as if they had lost
it, and they are offered no more when it is deleted (`records_shared_by_kinds`).

`Edit.versionOwners` is what a record would be if each kind had its own.  It is what the index has
recorded under the keys that one kind alone has, and the size of the index counts the subordinates of
the kinds that were edited last.
-/

namespace StatusRouter.Index

namespace Edit

/-- The kind of the subordinate that an edit is about. -/
def kind : Edit → String
  | .updating resource => resource.kind
  | .deleting kind _ => kind

/-- The subordinate that an edit is about, with its kind. -/
def subordinate? (edit : Edit) : Option (String × ResourceId) :=
  edit.key?.map fun id => (edit.kind, id)

/-- The owners that the last of some edits gives. -/
def lastGiven (ownerKind : OwnerKind) (edits : List Edit) : List ResourceId :=
  (edits.getLast?.map (given ownerKind)).getD []

/-- The kind that was edited last under a key. -/
def lastKind? (edits : List Edit) (id : ResourceId) : Option String :=
  (strand key? id edits).getLast?.map kind

/-- The owners of the last version of a subordinate of a kind; one that was deleted has none. -/
def versionOwners (ownerKind : OwnerKind) (edits : List Edit) (subordinate : String × ResourceId) :
    List ResourceId :=
  lastGiven ownerKind (strand subordinate? subordinate edits)

variable {ownerKind : OwnerKind} {edit last : Edit} {edits : List Edit} {id : ResourceId}
  {kind : String}

theorem lastGiven_append_singleton :
    lastGiven ownerKind (edits ++ [last]) = last.given ownerKind := by
  simp [lastGiven]

/-- Edits leave under a key what the last edit of the key gives. -/
theorem owners_reviseAll_eq_lastGiven :
    (Ownership.empty.reviseAll (edits.filterMap (revision? ownerKind))).owners id =
      lastGiven ownerKind (strand key? id edits) := by
  rw [Ownership.owners_reviseAll_strand, strand_revision?]
  rcases (strand key? id edits).eq_nil_or_concat with hnil | ⟨earlier, last, hsplit⟩
  · rw [hnil]
    rfl
  · have hlast : last ∈ strand key? id edits := by simp [hsplit]
    have hrevision : last.revision? ownerKind = some ⟨id, last.given ownerKind⟩ :=
      revision?_of_key? (mem_strand.mp hlast).2
    rw [hsplit, List.concat_eq_append, lastGiven_append_singleton, List.filterMap_append,
      Ownership.reviseAll_append, List.filterMap_cons_some hrevision, List.filterMap_nil,
      Ownership.reviseAll_cons, Ownership.reviseAll_nil, Ownership.owners_revise, if_pos rfl]

theorem subordinate?_eq_some_iff :
    edit.subordinate? = some (kind, id) ↔ edit.key? = some id ∧ edit.kind = kind := by
  unfold subordinate?
  cases edit.key? <;> simp [and_comm]

theorem strand_subordinate? :
    strand subordinate? (kind, id) edits =
      (strand key? id edits).filter fun edit => edit.kind = kind := by
  rw [strand, strand, List.filter_filter]
  refine List.filter_congr fun edit _ => ?_
  rw [Bool.eq_iff_iff]
  simp [subordinate?_eq_some_iff, and_comm]

theorem versionOwners_of_lastKind? (hlast : lastKind? edits id = some kind) :
    versionOwners ownerKind edits (kind, id) = lastGiven ownerKind (strand key? id edits) := by
  obtain ⟨last, hedit, hkind⟩ := Option.map_eq_some_iff.mp hlast
  obtain ⟨earlier, hsplit⟩ := List.getLast?_eq_some_iff.mp hedit
  have hfilter : strand subordinate? (kind, id) edits =
      earlier.filter (fun edit => edit.kind = kind) ++ [last] := by
    rw [strand_subordinate?, hsplit, List.filter_append]
    simp [hkind]
  rw [versionOwners, hfilter, lastGiven_append_singleton, hsplit, lastGiven_append_singleton]

theorem versionOwners_of_one_kind (h : ∀ edit ∈ edits, edit.key? = some id → edit.kind = kind) :
    versionOwners ownerKind edits (kind, id) = lastGiven ownerKind (strand key? id edits) := by
  have hall : ∀ edit ∈ strand key? id edits, decide (edit.kind = kind) = true := by
    intro edit hedit
    obtain ⟨hmem, hkey⟩ := mem_strand.mp hedit
    exact decide_eq_true (h edit hmem hkey)
  rw [versionOwners, strand_subordinate?, List.filter_eq_self.mpr hall]

theorem lastGiven_of_lastKind?_eq_none (hnone : lastKind? edits id = none) :
    lastGiven ownerKind (strand key? id edits) = [] := by
  rw [lastGiven, Option.map_eq_none_iff.mp hnone]
  rfl

theorem finite_versionOwners (ownerKind : OwnerKind) (edits : List Edit) :
    {subordinate | versionOwners ownerKind edits subordinate ≠ []}.Finite := by
  refine (edits.filterMap subordinate?).finite_toSet.subset fun subordinate howners => ?_
  have hne : strand subordinate? subordinate edits ≠ [] := by
    intro hnil
    refine howners ?_
    rw [versionOwners, hnil]
    rfl
  obtain ⟨edit, hedit⟩ := List.exists_mem_of_ne_nil _ hne
  obtain ⟨hmem, hsome⟩ := mem_strand.mp hedit
  exact List.mem_filterMap.mpr ⟨edit, hmem, hsome⟩

end Edit

variable {ownerKind : OwnerKind} {edits : List Edit} {index : Index}

/-- What is recorded under a key is what the last edit of the key gave, of whichever kind it was. -/
theorem Records.owners_eq_lastGiven (h : Records ownerKind edits index) (id : ResourceId) :
    index.owners id = Edit.lastGiven ownerKind (strand Edit.key? id edits) := by
  rw [owners, h.ownership, Edit.owners_reviseAll_eq_lastGiven]

/-- The subordinates that are counted are those of the kinds edited last. -/
theorem Records.size_eq_ncard_last (h : Records ownerKind edits index) :
    index.size = {subordinate | Edit.versionOwners ownerKind edits subordinate ≠ [] ∧
      Edit.lastKind? edits subordinate.2 = some subordinate.1}.ncard := by
  have hsize : index.size = {id | index.owners id ≠ []}.ncard := index.ownership.size_eq_ncard
  rw [hsize]
  -- a key tells the subordinate, since one kind alone was edited last under it
  refine (Set.ncard_congr (fun subordinate _ => subordinate.2) ?_ ?_ ?_).symm
  · rintro ⟨kind, id⟩ ⟨howners, hlast⟩
    rw [Edit.versionOwners_of_lastKind? hlast, ← h.owners_eq_lastGiven] at howners
    exact howners
  · rintro ⟨kind, id⟩ ⟨kind', id'⟩ ⟨-, hlast⟩ ⟨-, hlast'⟩ heq
    obtain rfl : id = id' := heq
    obtain rfl : kind = kind' := Option.some.inj (hlast.symm.trans hlast')
    rfl
  · intro id howners
    have hrecorded : Edit.lastGiven ownerKind (strand Edit.key? id edits) ≠ [] :=
      h.owners_eq_lastGiven id ▸ howners
    cases hlast : Edit.lastKind? edits id with
    | none => exact absurd (Edit.lastGiven_of_lastKind?_eq_none hlast) hrecorded
    | some kind =>
        refine ⟨(kind, id), ⟨?_, hlast⟩, rfl⟩
        rwa [Edit.versionOwners_of_lastKind? hlast]

/-- All subordinates whose last version has owners are counted if no other kind was edited after
them under the same key. -/
theorem Records.size_eq_ncard_iff (h : Records ownerKind edits index) :
    index.size = {subordinate | Edit.versionOwners ownerKind edits subordinate ≠ []}.ncard ↔
      ∀ subordinate, Edit.versionOwners ownerKind edits subordinate ≠ [] →
        Edit.lastKind? edits subordinate.2 = some subordinate.1 := by
  have hsubset : {subordinate | Edit.versionOwners ownerKind edits subordinate ≠ [] ∧
      Edit.lastKind? edits subordinate.2 = some subordinate.1} ⊆
        {subordinate | Edit.versionOwners ownerKind edits subordinate ≠ []} :=
    fun subordinate hcounted => hcounted.1
  rw [h.size_eq_ncard_last]
  constructor
  · intro hncard subordinate howners
    have heq := Set.eq_of_subset_of_ncard_le hsubset hncard.ge
      (Edit.finite_versionOwners ownerKind edits)
    have hcounted : subordinate ∈ {subordinate |
        Edit.versionOwners ownerKind edits subordinate ≠ [] ∧
          Edit.lastKind? edits subordinate.2 = some subordinate.1} := heq ▸ howners
    exact hcounted.2
  · intro hlast
    exact congrArg Set.ncard
      (hsubset.antisymm fun subordinate howners => ⟨howners, hlast subordinate howners⟩)

/-- In every run of a new index that takes in subordinates of any kinds, those with the same
namespace and name share one record, and it is that of the kind that was edited last.  An edit of any
kind replaces the record under its key, and it offers the owners it gives and those that it takes
away, whichever kind they were recorded for; other keys keep their records.  A kind that has a key for
itself has its own record there.  The size counts the subordinates with owners that were edited last
under their keys, so it counts all with owners if no other kind was edited after them. -/
theorem records_shared_by_kinds (ownerKind : OwnerKind) (queue : WorkQueue)
    (actions : List Action) :
    let index := ((Index.of ownerKind queue).run actions).index
    let edits := actions.flatMap Action.edits
    (∀ kind id, Edit.lastKind? edits id = some kind →
      index.owners id = Edit.versionOwners ownerKind edits (kind, id)) ∧
    (∀ id, Edit.lastKind? edits id = none → index.owners id = []) ∧
    (∀ (edit : Edit) (id : ResourceId), edit.key? = some id →
      let after := (edit.perform index).index
      let given := edit.given ownerKind
      (∀ other, after.owners other = if other = id then given else index.owners other) ∧
        after.queue = index.queue.extended
          (given ++ (index.owners id).filter fun owner => owner ∉ given)) ∧
    (∀ kind id, (∀ edit ∈ edits, edit.key? = some id → edit.kind = kind) →
      index.owners id = Edit.versionOwners ownerKind edits (kind, id)) ∧
    index.size = {subordinate | Edit.versionOwners ownerKind edits subordinate ≠ [] ∧
      Edit.lastKind? edits subordinate.2 = some subordinate.1}.ncard ∧
    (index.size = {subordinate | Edit.versionOwners ownerKind edits subordinate ≠ []}.ncard ↔
      ∀ subordinate, Edit.versionOwners ownerKind edits subordinate ≠ [] →
        Edit.lastKind? edits subordinate.2 = some subordinate.1) := by
  intro index edits
  have hrecords : Records ownerKind edits index := records_run ownerKind queue actions
  refine ⟨?_, ?_, ?_, ?_, hrecords.size_eq_ncard_last, hrecords.size_eq_ncard_iff⟩
  · intro kind id hlast
    rw [hrecords.owners_eq_lastGiven, Edit.versionOwners_of_lastKind? hlast]
  · intro id hnone
    rw [hrecords.owners_eq_lastGiven, Edit.lastGiven_of_lastKind?_eq_none hnone]
  · intro edit id hkey after given
    have hrevision : edit.revision? index.ownerKind = some ⟨id, given⟩ := by
      rw [hrecords.kind]
      exact Edit.revision?_of_key? hkey
    have hrevises := Edit.revises_perform hrevision
    refine ⟨fun other => (hrevises.owners other).trans Ownership.owners_revise, ?_⟩
    have hqueue := hrevises.queue
    rwa [Ownership.offersAll_singleton] at hqueue
  · intro kind id hkind
    rw [hrecords.owners_eq_lastGiven, Edit.versionOwners_of_one_kind hkind]

/-- A group and a deployment have the same key, and the group loses its owner to the deployment.  The
deployment is deleted without a word of the group's owner, while another group keeps its record. -/
theorem records_shared_by_kinds_of_two_kinds :
    let resource (kind name owner : String) : Subordinate :=
      ⟨kind, some "ns", some name, none, [⟨"KafkaSource", owner⟩]⟩
    let actions : List Action :=
      [.performing (.applying (resource "ConsumerGroup" "shared" "a")),
        .performing (.applying (resource "ConsumerGroup" "own" "b")),
        .performing (.applying (resource "Deployment" "shared" "c"))]
    let index := ((Index.of (.ofKind "KafkaSource") .unbounded).run actions).index
    index.owners ⟨"ns", "shared"⟩ = [⟨"ns", "c"⟩] ∧ index.owners ⟨"ns", "own"⟩ = [⟨"ns", "b"⟩] ∧
      (index.delete "Deployment" ⟨"ns", "shared"⟩).index.queue =
        index.queue.extended [⟨"ns", "c"⟩] := by
  intro resource actions index
  have hindex : index = ((Index.of (.ofKind "KafkaSource") .unbounded).run actions).index := rfl
  have hshare := records_shared_by_kinds (.ofKind "KafkaSource") .unbounded actions
  rw [← hindex] at hshare
  clear_value index
  obtain ⟨hlast, -, hedit, hkind, -, -⟩ := hshare
  have hshared : index.owners ⟨"ns", "shared"⟩ = [⟨"ns", "c"⟩] := by
    rw [hlast "Deployment" ⟨"ns", "shared"⟩ (by decide +kernel)]
    decide +kernel
  have hown : index.owners ⟨"ns", "own"⟩ = [⟨"ns", "b"⟩] := by
    rw [hkind "ConsumerGroup" ⟨"ns", "own"⟩ (by decide +kernel)]
    decide +kernel
  obtain ⟨-, hqueue⟩ := hedit (.deleting "Deployment" ⟨"ns", "shared"⟩) ⟨"ns", "shared"⟩ rfl
  rw [hshared] at hqueue
  exact ⟨hshared, hown, hqueue⟩

/-- An update of a deployment without owners forgets what was recorded of a group with the same key:
it offers the owner of the group, the size is no longer that of the subordinates with owners, and
when the group is deleted its owner is not offered. -/
theorem update_of_other_kind_forgets_owners :
    let id : ResourceId := ⟨"ns", "x"⟩
    let group : Subordinate :=
      ⟨"ConsumerGroup", some "ns", some "x", none, [⟨"KafkaSource", "a"⟩]⟩
    let deployment : Subordinate := ⟨"Deployment", some "ns", some "x", none, []⟩
    let actions : List Action :=
      [.performing (.applying group), .performing (.applying deployment)]
    let edits := actions.flatMap Action.edits
    let before := (Index.of (.ofKind "KafkaSource") .unbounded).apply group
    let index := ((Index.of (.ofKind "KafkaSource") .unbounded).run actions).index
    before.index.owners id = [⟨"ns", "a"⟩] ∧
      Edit.versionOwners (.ofKind "KafkaSource") edits ("ConsumerGroup", id) = [⟨"ns", "a"⟩] ∧
      index.owners id = [] ∧
      index.queue = before.index.queue.extended [⟨"ns", "a"⟩] ∧
      index.size ≠ {subordinate |
        Edit.versionOwners (.ofKind "KafkaSource") edits subordinate ≠ []}.ncard ∧
      (index.delete "ConsumerGroup" id).index.queue = index.queue := by
  intro id group deployment actions edits before index
  have howners : Edit.versionOwners (.ofKind "KafkaSource") edits ("ConsumerGroup", id) =
      [⟨"ns", "a"⟩] := by decide +kernel
  refine ⟨by decide +kernel, howners, by decide +kernel, by decide +kernel, ?_, by decide +kernel⟩
  intro hsize
  have hrecords : Records (.ofKind "KafkaSource") edits index := records_run _ .unbounded actions
  have hlast : Edit.lastKind? edits id = some "ConsumerGroup" :=
    hrecords.size_eq_ncard_iff.mp hsize ("ConsumerGroup", id) (by simp [howners])
  exact absurd hlast (by decide +kernel)

end StatusRouter.Index
