import StatusRouter.Proofs.Interleaving
import StatusRouter.Proofs.Routing.Edit

/-!
# Edits of different subordinates commute

What an edit does to the record of a subordinate, and which keys it offers, depends on the edits of
the same subordinate that came before it, and on no others.  So two rows of edits that are
interleavings of the same strands, one for each subordinate, leave the same records, the same gauge
and the same counters, and offer the same keys, each as often.  Only the order in which they offer
them tells the rows apart (`sameUpToOrder_of_strand_eq`).

The records are not the same list after the two rows, so all is said of what is read from them.  The
keys that a row of revisions offers are taken apart by subordinates (`Ownership.offerings`): then the
strand of each subordinate offers the same in both rows, and so the rows offer permutations of each
other.
-/

namespace StatusRouter

/-! ## Revisions -/

/-- The subordinate that a revision is about. -/
def Revision.key? (revision : Revision) : Option ResourceId := some revision.subordinate

namespace Ownership

variable {ownership other : Ownership} {revisions first second : List Revision} {key : ResourceId}

theorem owners_revise_congr {revision : Revision} (hkey : revision.key? = some key) :
    (ownership.revise revision).owners key = (other.revise revision).owners key := by
  have hsubordinate : key = revision.subordinate := (Option.some.inj hkey).symm
  rw [owners_revise, owners_revise, if_pos hsubordinate, if_pos hsubordinate]

theorem owners_revise_of_ne {revision : Revision} (hkey : revision.key? ≠ some key) :
    (ownership.revise revision).owners key = ownership.owners key := by
  have hne : key ≠ revision.subordinate := fun heq => hkey (congrArg some heq.symm)
  rw [owners_revise, if_neg hne]

theorem owners_reviseAll_strand :
    (ownership.reviseAll revisions).owners key =
      (ownership.reviseAll (strand Revision.key? key revisions)).owners key :=
  foldl_strand (fun ownership : Ownership => ownership.owners key) revise
    (fun _ _ _ hkey _ => owners_revise_congr hkey) (fun _ _ hkey => owners_revise_of_ne hkey) rfl

/-- What revisions offer, one after another, each with its subordinate. -/
def offerings (ownership : Ownership) : List Revision → List (ResourceId × List ResourceId)
  | [] => []
  | revision :: rest =>
    (revision.subordinate, ownership.offers revision) :: (ownership.revise revision).offerings rest

theorem offersAll_eq_flatMap :
    ownership.offersAll revisions = (ownership.offerings revisions).flatMap Prod.snd := by
  induction revisions generalizing ownership with
  | nil => rfl
  | cons revision rest ih => rw [offersAll, offerings, List.flatMap_cons, ih]

/-- The revisions of a subordinate offer what they offer without the others. -/
theorem strand_offerings (howners : ownership.owners key = other.owners key) :
    strand (fun offering => some offering.1) key (ownership.offerings revisions) =
      other.offerings (strand Revision.key? key revisions) := by
  induction revisions generalizing ownership other with
  | nil => rfl
  | cons revision rest ih =>
      rw [offerings, strand_cons, strand_cons]
      by_cases hkey : revision.key? = some key
      · have hsubordinate : revision.subordinate = key := Option.some.inj hkey
        have hoffers : ownership.offers revision = other.offers revision := by
          rw [offers, offers, hsubordinate, howners]
        rw [if_pos (congrArg some hsubordinate), if_pos hkey, offerings, hoffers,
          ih (owners_revise_congr hkey)]
      · have hne : some revision.subordinate ≠ some key := hkey
        rw [if_neg hne, if_neg hkey, ih ((owners_revise_of_ne hkey).trans howners)]

theorem perm_offersAll
    (h : ∀ key, strand Revision.key? key first = strand Revision.key? key second) :
    (ownership.offersAll first).Perm (ownership.offersAll second) := by
  have hofferings : (ownership.offerings first).Perm (ownership.offerings second) := by
    refine perm_of_strand_eq (fun offering => some offering.1) (by simp) fun key => ?_
    calc strand _ key (ownership.offerings first)
        = ownership.offerings (strand Revision.key? key first) := strand_offerings rfl
      _ = ownership.offerings (strand Revision.key? key second) := by rw [h key]
      _ = strand _ key (ownership.offerings second) := (strand_offerings rfl).symm
  rw [offersAll_eq_flatMap, offersAll_eq_flatMap]
  exact hofferings.flatMap_right Prod.snd

end Ownership

/-! ## Counters -/

namespace CounterFamily

/-- Raises counters one after another. -/
def raiseAll (family : CounterFamily) (labels : List String) : CounterFamily :=
  labels.foldl raise family

theorem raiseAll_append (family : CounterFamily) (labels later : List String) :
    family.raiseAll (labels ++ later) = (family.raiseAll labels).raiseAll later :=
  List.foldl_append

theorem lookup_raiseAll (family : CounterFamily) (labels : List String) (label : String) :
    (family.raiseAll labels).series.lookup label =
      if label ∈ labels then some (family.count label + labels.count label)
      else family.series.lookup label := by
  induction labels generalizing family with
  | nil => rfl
  | cons first rest ih =>
      have hfirst : (family.raise first).series.lookup label =
          if label = first then some (family.count first + 1) else family.series.lookup label :=
        lookup_raiseIn first label family.series
      have hall : (family.raiseAll (first :: rest)).series.lookup label =
          ((family.raise first).raiseAll rest).series.lookup label := rfl
      rw [hall, ih, hfirst, count_raise]
      -- the series of a label begins when the label is first raised
      by_cases heq : label = first
      · subst heq
        by_cases hmem : label ∈ rest
        · simp [hmem, Nat.add_assoc, Nat.add_comm 1]
        · simp [hmem, List.count_eq_zero.mpr hmem]
      · have hcount : (first :: rest).count label = rest.count label :=
          List.count_cons_of_ne (Ne.symm heq)
        simp [heq, hcount]

theorem count_raiseAll (family : CounterFamily) (labels : List String) (label : String) :
    (family.raiseAll labels).count label = family.count label + labels.count label := by
  rw [count, lookup_raiseAll]
  split
  · rfl
  · rename_i hnotMem
    rw [List.count_eq_zero.mpr hnotMem]
    rfl

theorem lookup_raiseAll_of_perm (family : CounterFamily) {labels others : List String}
    (h : labels.Perm others) (label : String) :
    (family.raiseAll labels).series.lookup label =
      (family.raiseAll others).series.lookup label := by
  rw [lookup_raiseAll, lookup_raiseAll, h.count_eq]
  simp only [h.mem_iff]

end CounterFamily

/-! ## Queues -/

namespace WorkQueue

variable {queue : WorkQueue} {ids ids' : List ResourceId}

theorem length_admitted_congr (h : ids.length = ids'.length) :
    (queue.admitted ids).length = (queue.admitted ids').length := by
  rw [length_admitted, length_admitted, h]

theorem length_refusals_congr (h : ids.length = ids'.length) :
    (queue.refusals ids).length = (queue.refusals ids').length := by
  rw [refusals, refusals, List.length_map, List.length_map, List.length_drop, List.length_drop, h,
    length_admitted_congr h]

end WorkQueue

/-! ## Edits -/

/-- The key of a resource, if it has both parts of one. -/
def Subordinate.key? (resource : Subordinate) : Option ResourceId := resource.key.toOption

theorem Subordinate.key?_eq_some_iff {resource : Subordinate} {id : ResourceId} :
    resource.key? = some id ↔ resource.key = .ok id := by
  unfold key?
  cases resource.key <;> simp [Except.toOption]

namespace Index

namespace Edit

/-- The key of the subordinate that an edit is about. -/
def key? : Edit → Option ResourceId
  | .updating resource => resource.key?
  | .deleting _ subordinate => some subordinate

/-- The owners that an edit gives to its subordinate. -/
def given (ownerKind : OwnerKind) : Edit → List ResourceId
  | .updating resource => ownerKind.route resource
  | .deleting _ _ => []

/-- The kind that an edit is counted under as an update. -/
def updatedKind? : Edit → Option String
  | .updating resource => some resource.kind
  | .deleting _ _ => none

/-- The kind that an edit is counted under as a deletion. -/
def deletedKind? : Edit → Option String
  | .updating _ => none
  | .deleting kind _ => some kind

/-- The keys that a row of edits offers, in order. -/
def offeredBy (index : Index) (edits : List Edit) : List ResourceId :=
  index.ownership.offersAll (edits.filterMap (revision? index.ownerKind))

variable {index : Index} {edit : Edit} {edits : List Edit} {key : ResourceId}
  {ownerKind : OwnerKind}

theorem key?_of_revision? {revision : Revision} (h : edit.revision? ownerKind = some revision) :
    revision.key? = edit.key? := by
  cases edit with
  | updating resource =>
      have hkey : resource.key = .ok revision.subordinate :=
        (Subordinate.revision?_eq_some_iff.mp h).1
      exact (Subordinate.key?_eq_some_iff.mpr hkey).symm
  | deleting kind subordinate =>
      obtain rfl := Option.some.inj h
      rfl

theorem revision?_of_key? (hkey : edit.key? = some key) :
    edit.revision? ownerKind = some ⟨key, edit.given ownerKind⟩ := by
  cases edit with
  | updating resource =>
      exact Subordinate.revision?_eq_some_iff.mpr ⟨Subordinate.key?_eq_some_iff.mp hkey, rfl⟩
  | deleting kind subordinate =>
      obtain rfl := Option.some.inj hkey
      rfl

theorem exists_revision (ownerKind : OwnerKind) (hkey : edit.key? ≠ none) :
    ∃ revision, edit.revision? ownerKind = some revision := by
  obtain ⟨id, hid⟩ := Option.ne_none_iff_exists'.mp hkey
  exact ⟨⟨id, edit.given ownerKind⟩, revision?_of_key? hid⟩

theorem strand_revision? :
    strand Revision.key? key (edits.filterMap (revision? ownerKind)) =
      (strand key? key edits).filterMap (revision? ownerKind) :=
  strand_filterMap fun _ _ => key?_of_revision?

theorem counted_perform (index : Index) (edit : Edit) :
    (edit.perform index).index.metrics.applies =
        index.metrics.applies.raiseAll edit.updatedKind?.toList ∧
      (edit.perform index).index.metrics.deletes =
        index.metrics.deletes.raiseAll edit.deletedKind?.toList := by
  cases edit with
  | updating resource =>
      rw [perform, apply]
      cases resource.namespace with
      | none => exact ⟨rfl, rfl⟩
      | some ns =>
          cases resource.name with
          | none => exact ⟨rfl, rfl⟩
          | some name =>
              simp only [record, offerAll_eq]
              exact ⟨rfl, rfl⟩
  | deleting kind subordinate =>
      simp only [perform, delete, offerAll_eq]
      exact ⟨rfl, rfl⟩

end Edit

variable {index : Index} {first second edits : List Edit}

theorem counted_editAll (index : Index) (edits : List Edit) :
    (index.editAll edits).1.metrics.applies =
        index.metrics.applies.raiseAll (edits.filterMap Edit.updatedKind?) ∧
      (index.editAll edits).1.metrics.deletes =
        index.metrics.deletes.raiseAll (edits.filterMap Edit.deletedKind?) := by
  induction edits generalizing index with
  | nil => exact ⟨rfl, rfl⟩
  | cons edit rest ih =>
      obtain ⟨hupdated, hdeleted⟩ := edit.counted_perform index
      obtain ⟨happlies, hdeletes⟩ := ih (edit.perform index).index
      rw [editAll, happlies, hdeletes, hupdated, hdeleted]
      cases edit with
      | updating resource => exact ⟨rfl, rfl⟩
      | deleting kind subordinate => exact ⟨rfl, rfl⟩

theorem gauge_editAll (hkeyed : ∀ edit ∈ edits, edit.key? ≠ none) (hne : edits ≠ []) :
    (index.editAll edits).1.metrics.size = (index.editAll edits).1.size := by
  cases edits with
  | nil => exact absurd rfl hne
  | cons edit rest =>
      obtain ⟨revision, hrevision⟩ := edit.exists_revision index.ownerKind (hkeyed edit (by simp))
      have hrest := edited_editAll (edit.perform index).index rest
      exact hrest.gauge (Edit.size_perform hrevision)

/-- All that edits with keys report is which owners the queue refused. -/
theorem events_editAll (hkeyed : ∀ edit ∈ edits, edit.key? ≠ none) :
    (index.editAll edits).2 = (index.queue.refusals (Edit.offeredBy index edits)).map dropped := by
  have hnamed : ∀ event ∈ (index.editAll edits).2, event.namesOwner = true := by
    induction edits generalizing index with
    | nil => simp [editAll]
    | cons edit rest ih =>
        obtain ⟨hedit, hrest⟩ := List.forall_mem_cons.mp hkeyed
        obtain ⟨revision, hrevision⟩ := edit.exists_revision index.ownerKind hedit
        intro event hevent
        rcases List.mem_append.mp hevent with hfirst | hlater
        · rw [(Edit.revises_perform hrevision).events] at hfirst
          obtain ⟨refusal, -, rfl⟩ := List.mem_map.mp hfirst
          exact namesOwner_dropped refusal
        · exact ih hrest event hlater
  rw [← List.filter_eq_self.mpr hnamed]
  exact (edited_editAll index edits).reported

/-- Two outcomes of work on an index differ in the order of the offered keys at most, and in what the
queue makes of that order. -/
structure SameUpToOrder (before : Index) (ids ids' : List ResourceId)
    (first second : Index × List LogEvent) : Prop where
  owners : ∀ key, first.1.owners key = second.1.owners key
  size : first.1.size = second.1.size
  gauge : first.1.metrics.size = second.1.metrics.size
  applies : ∀ kind, first.1.metrics.applies.series.lookup kind =
    second.1.metrics.applies.series.lookup kind
  deletes : ∀ kind, first.1.metrics.deletes.series.lookup kind =
    second.1.metrics.deletes.series.lookup kind
  /-- As many keys are accepted and refused. -/
  enqueued : first.1.metrics.enqueued = second.1.metrics.enqueued
  dropped : first.1.metrics.dropped = second.1.metrics.dropped
  offered : ids.Perm ids'
  /-- The offered keys are in the queue, as far as they fit. -/
  queue : first.1.queue = before.queue.extended ids ∧ second.1.queue = before.queue.extended ids'
  /-- The others are reported, and nothing else is. -/
  events : first.2 = (before.queue.refusals ids).map Index.dropped ∧
    second.2 = (before.queue.refusals ids').map Index.dropped

/-- The records after a row of edits are told by the strands of the subordinates. -/
theorem owners_editAll (index : Index) (edits : List Edit) (key : ResourceId) :
    (index.editAll edits).1.owners key =
      (index.ownership.reviseAll
        ((strand Edit.key? key edits).filterMap (Edit.revision? index.ownerKind))).owners key := by
  rw [owners, (edited_editAll index edits).ownership, Ownership.owners_reviseAll_strand,
    Edit.strand_revision?]

theorem sameUpToOrder_editAll (index : Index) (hkeyed : ∀ edit ∈ first ++ second, edit.key? ≠ none)
    (hstrands : ∀ key, strand Edit.key? key first = strand Edit.key? key second) :
    SameUpToOrder index (Edit.offeredBy index first) (Edit.offeredBy index second)
      (index.editAll first) (index.editAll second) := by
  have hperm : first.Perm second := perm_of_strand_eq Edit.key? hkeyed hstrands
  obtain ⟨hfirst, hsecond⟩ := List.forall_mem_append.mp hkeyed
  have heditedFirst := edited_editAll index first
  have heditedSecond := edited_editAll index second
  have howners : ∀ key, (index.editAll first).1.owners key = (index.editAll second).1.owners key := by
    intro key
    rw [owners_editAll, owners_editAll, hstrands key]
  have hsize : (index.editAll first).1.size = (index.editAll second).1.size :=
    Ownership.size_congr howners
  have hoffered : (Edit.offeredBy index first).Perm (Edit.offeredBy index second) := by
    refine Ownership.perm_offersAll fun key => ?_
    rw [Edit.strand_revision?, Edit.strand_revision?, hstrands key]
  exact
    { owners := howners
      size := hsize
      gauge := by
        -- the gauge may have been wrong before, and without an edit it stays wrong
        cases first with
        | nil => rw [hperm.nil_eq]
        | cons edit rest =>
            have hne : second ≠ [] := fun hnil => by simp [hnil] at hperm
            rw [gauge_editAll hfirst (List.cons_ne_nil edit rest), gauge_editAll hsecond hne, hsize]
      applies := fun kind => by
        rw [(counted_editAll index first).1, (counted_editAll index second).1]
        exact CounterFamily.lookup_raiseAll_of_perm _ (hperm.filterMap _) kind
      deletes := fun kind => by
        rw [(counted_editAll index first).2, (counted_editAll index second).2]
        exact CounterFamily.lookup_raiseAll_of_perm _ (hperm.filterMap _) kind
      enqueued := by
        rw [heditedFirst.enqueued, heditedSecond.enqueued]
        exact congrArg _ (WorkQueue.length_admitted_congr hoffered.length_eq)
      dropped := by
        rw [heditedFirst.dropped, heditedSecond.dropped]
        exact congrArg _ (WorkQueue.length_refusals_congr hoffered.length_eq)
      offered := hoffered
      queue := ⟨heditedFirst.queue, heditedSecond.queue⟩
      events := ⟨events_editAll hfirst, events_editAll hsecond⟩ }

/-! ## Listings -/

theorem Edit.breaksOff_of_key? {edit : Edit} (hkey : edit.key? ≠ none) :
    edit.breaksOff = false := by
  cases edit with
  | updating resource =>
      obtain ⟨id, hid⟩ := Option.ne_none_iff_exists'.mp hkey
      obtain ⟨hnamespace, hname⟩ :=
        Subordinate.key_eq_ok_iff.mp (Subordinate.key?_eq_some_iff.mp hid)
      rw [Edit.breaksOff, hnamespace, hname]
      rfl
  | deleting kind subordinate => rfl

theorem Edit.carriedOut_eq_self (hkeyed : ∀ edit ∈ edits, edit.key? ≠ none) :
    Edit.carriedOut edits = edits := by
  induction edits with
  | nil => rfl
  | cons edit rest ih =>
      obtain ⟨hedit, hrest⟩ := List.forall_mem_cons.mp hkeyed
      rw [Edit.carriedOut, Edit.breaksOff_of_key? hedit, ih hrest]
      rfl

section

variable {kind : String} {resources listed : List Subordinate} {removed erased : List ResourceId}
  {key : ResourceId}

/-- The edits of a listing, if all of them are carried out. -/
def editsOfListing (kind : String) (resources : List Subordinate) (removed : List ResourceId) :
    List Edit :=
  resources.map .updating ++ (distinct removed).map (.deleting kind)

theorem key?_of_mem_editsOfListing (hkeyed : ∀ resource ∈ resources, resource.key? ≠ none) :
    ∀ edit ∈ editsOfListing kind resources removed, edit.key? ≠ none := by
  intro edit hedit
  rcases List.mem_append.mp hedit with hupdate | hdeletion
  · obtain ⟨resource, hresource, rfl⟩ := List.mem_map.mp hupdate
    exact hkeyed resource hresource
  · obtain ⟨id, -, rfl⟩ := List.mem_map.mp hdeletion
    exact Option.some_ne_none id

theorem edits_resetting (hkeyed : ∀ resource ∈ resources, resource.key? ≠ none) :
    (Operation.resetting kind resources removed).edits = editsOfListing kind resources removed :=
  Edit.carriedOut_eq_self (key?_of_mem_editsOfListing hkeyed)

theorem fault_reset (hkeyed : ∀ resource ∈ resources, resource.key? ≠ none) :
    (index.reset kind resources removed).fault = none := by
  refine (revises_reset rfl kind (fun resource hresource => ?_) removed).fault
  obtain ⟨id, hid⟩ := Option.ne_none_iff_exists'.mp (hkeyed resource hresource)
  exact ⟨id, Subordinate.key?_eq_some_iff.mp hid⟩

/-- The removed keys may be deleted in any order, since each is deleted once. -/
theorem strand_editsOfListing
    (hstrand : strand Subordinate.key? key resources = strand Subordinate.key? key listed)
    (hremoved : ∀ id, id ∈ removed ↔ id ∈ erased) :
    strand Edit.key? key (editsOfListing kind resources removed) =
      strand Edit.key? key (editsOfListing kind listed erased) := by
  have hupdates : ∀ resources' : List Subordinate,
      strand Edit.key? key (resources'.map .updating) =
        (strand Subordinate.key? key resources').map .updating := by
    intro resources'
    rw [strand, List.filter_map]
    rfl
  have hdeletions : strand Edit.key? key ((distinct removed).map (.deleting kind)) =
      strand Edit.key? key ((distinct erased).map (.deleting kind)) := by
    have hperm : (distinct removed).Perm (distinct erased) := by
      rw [List.perm_ext_iff_of_nodup (nodup_distinct removed) (nodup_distinct erased)]
      simpa using hremoved
    have hkeys : ((distinct removed).map (Edit.deleting kind)).filterMap Edit.key? =
        distinct removed := by
      simp [List.filterMap_map, Function.comp_def, Edit.key?]
    refine strand_eq_of_perm (hperm.map _) ?_
    rw [hkeys]
    exact nodup_distinct removed
  rw [editsOfListing, editsOfListing, strand_append, strand_append, hupdates, hupdates, hstrand,
    hdeletions]

theorem sameUpToOrder_reset (index : Index)
    (hkeyed : ∀ resource ∈ resources ++ listed, resource.key? ≠ none)
    (hstrands : ∀ key, strand Subordinate.key? key resources = strand Subordinate.key? key listed)
    (hremoved : ∀ id, id ∈ removed ↔ id ∈ erased) :
    SameUpToOrder index ((Operation.resetting kind resources removed).offered index)
      ((Operation.resetting kind listed erased).offered index)
      ((index.reset kind resources removed).index, (index.reset kind resources removed).events)
      ((index.reset kind listed erased).index, (index.reset kind listed erased).events) := by
  obtain ⟨hresources, hlisted⟩ := List.forall_mem_append.mp hkeyed
  have hrows : ∀ edit ∈ editsOfListing kind resources removed ++ editsOfListing kind listed erased,
      edit.key? ≠ none :=
    List.forall_mem_append.mpr
      ⟨key?_of_mem_editsOfListing hresources, key?_of_mem_editsOfListing hlisted⟩
  have hsame := sameUpToOrder_editAll index hrows
    fun key => strand_editsOfListing (hstrands key) hremoved
  rw [← edits_resetting hresources, ← edits_resetting hlisted, ← perform_eq_editAll,
    ← perform_eq_editAll] at hsame
  exact hsame

end

/-- Updates and deletions of subordinates with keys may be made in any order that leaves the order of
those of each subordinate: the records, their number, the gauge and the counters are the same, and
the offered keys are the same, each as often.  The same holds of two new listings: resources with
distinct keys may be listed in any order, and removed keys may be deleted in any order. -/
theorem sameUpToOrder_of_strand_eq (index : Index) :
    (∀ first second : List Edit, (∀ edit ∈ first ++ second, edit.key? ≠ none) →
      (∀ key, strand Edit.key? key first = strand Edit.key? key second) →
        SameUpToOrder index (Edit.offeredBy index first) (Edit.offeredBy index second)
          (index.editAll first) (index.editAll second)) ∧
    ∀ (kind : String) (resources listed : List Subordinate) (removed erased : List ResourceId),
      (∀ resource ∈ resources ++ listed, resource.key? ≠ none) →
      (∀ key, strand Subordinate.key? key resources = strand Subordinate.key? key listed) →
      (∀ key, key ∈ removed ↔ key ∈ erased) →
        let first := index.reset kind resources removed
        let second := index.reset kind listed erased
        first.fault = none ∧ second.fault = none ∧
          SameUpToOrder index ((Operation.resetting kind resources removed).offered index)
            ((Operation.resetting kind listed erased).offered index)
            (first.index, first.events) (second.index, second.events) := by
  refine ⟨fun first second => sameUpToOrder_editAll index, ?_⟩
  intro kind resources listed removed erased hkeyed hstrands hremoved first second
  obtain ⟨hresources, hlisted⟩ := List.forall_mem_append.mp hkeyed
  exact ⟨fault_reset hresources, fault_reset hlisted,
    sameUpToOrder_reset index hkeyed hstrands hremoved⟩

/-- Two groups change in either order, and one of them is deleted, while the queue has room for two
keys.  What the queue takes depends on the order, and nothing else does.  So it is when a listing has
the groups in either order and removes two others. -/
theorem sameUpToOrder_of_strand_eq_of_full_queue :
    let group (name : String) (owners : List Owner) : Subordinate :=
      ⟨"ConsumerGroup", some "ns", some name, none, owners⟩
    let index : Index :=
      { ((Index.of (.ofKind "KafkaSource") .unbounded).apply
            (group "left" [⟨"KafkaSource", "a"⟩])).index with
        queue := ⟨some 2, [], false⟩ }
    let left : Edit := .updating (group "left" [⟨"KafkaSource", "b"⟩])
    let right : Edit := .updating (group "right" [⟨"KafkaSource", "c"⟩])
    let last : Edit := .deleting "ConsumerGroup" ⟨"ns", "left"⟩
    let listed := [group "left" [⟨"KafkaSource", "b"⟩], group "right" []]
    let removed : List ResourceId := [⟨"ns", "first"⟩, ⟨"ns", "second"⟩]
    (index.editAll [left, right, last]).1.queue.items = [⟨"ns", "b"⟩, ⟨"ns", "a"⟩] ∧
      (index.editAll [right, left, last]).1.queue.items = [⟨"ns", "c"⟩, ⟨"ns", "b"⟩] ∧
      SameUpToOrder index (Edit.offeredBy index [left, right, last])
        (Edit.offeredBy index [right, left, last]) (index.editAll [left, right, last])
        (index.editAll [right, left, last]) ∧
      ∀ key, (index.reset "ConsumerGroup" listed removed).index.owners key =
        (index.reset "ConsumerGroup" listed.reverse removed.reverse).index.owners key := by
  intro group index left right last listed removed
  obtain ⟨hrows, hlistings⟩ := sameUpToOrder_of_strand_eq index
  refine ⟨by decide +kernel, by decide +kernel, ?_, ?_⟩
  · refine hrows [left, right, last] [right, left, last] (by decide) fun key => ?_
    -- the two updates that change places are of different groups
    have hupdates : strand Edit.key? key [left, right] = strand Edit.key? key [right, left] :=
      strand_eq_of_perm (.swap right left []) (by decide)
    show strand Edit.key? key ([left, right] ++ [last]) =
      strand Edit.key? key ([right, left] ++ [last])
    rw [strand_append, strand_append, hupdates]
  · have hkeyed : ∀ resource ∈ listed ++ listed.reverse, resource.key? ≠ none := by decide
    have hlisted : ∀ key, strand Subordinate.key? key listed =
        strand Subordinate.key? key listed.reverse :=
      fun key => strand_eq_of_perm listed.reverse_perm.symm (by decide)
    have hremoved : ∀ key, key ∈ removed ↔ key ∈ removed.reverse := fun key => by simp
    clear_value listed removed index
    obtain ⟨-, -, hsame⟩ := hlistings "ConsumerGroup" listed listed.reverse removed removed.reverse
      hkeyed hlisted hremoved
    exact hsame.owners

end Index

end StatusRouter
