import StatusRouter.Proofs.Routing.Operation
import StatusRouter.Proofs.Routing.Stream

/-!
# Watchers between and during listings

What a watcher remembers of a stream, and what its index has recorded, is told by the groups that
stand under the keys.  Between listings the records are up to date (`Tracks`).  While a listing is
under way they are as they were when it began, and the watcher gathers what it takes to bring them
up to date at its end: the groups that were listed, and the keys that were not (`Lists`).

There is one lemma for each event, which leads from the one state to the same or to the other.
-/

namespace StatusRouter.Watcher

/-- Between listings, the records are those of the groups that stand under the keys. -/
structure Tracks (kind : OwnerKind) (events : List WatchEvent) (watcher : Watcher) : Prop where
  ownerKind : watcher.index.ownerKind = kind
  owners : ∀ key, watcher.index.owners key = ((standing key events).map kind.route).getD []
  live : ∀ key, key ∈ watcher.live ↔ standing key events ≠ none
  candidates : watcher.candidates = []
  listing : watcher.listing = []

/-- While a listing is under way, the records are as they were, the groups that were listed are
live, and the keys that stood before and were not listed are candidates. -/
structure Lists (kind : OwnerKind) (before : List WatchEvent) (groups : List Subordinate)
    (watcher : Watcher) : Prop where
  ownerKind : watcher.index.ownerKind = kind
  owners : ∀ key, watcher.index.owners key = ((standing key before).map kind.route).getD []
  live : ∀ key, key ∈ watcher.live ↔ ∃ resource ∈ groups, resource.key = .ok key
  candidates : ∀ key, key ∈ watcher.candidates ↔
    standing key before ≠ none ∧ ¬ ∃ resource ∈ groups, resource.key = .ok key
  listing : watcher.listing = groups

section

variable {kind : OwnerKind} {events before : List WatchEvent} {groups : List Subordinate}
  {watcher : Watcher} {resource : Subordinate} {id key : ResourceId}

@[simp] theorem mem_live_withLive :
    key ∈ (watcher.withLive id).live ↔ key = id ∨ key ∈ watcher.live := by
  unfold withLive
  by_cases h : id ∈ watcher.live
  · simp only [h, if_true, iff_or_self]
    rintro rfl
    exact h
  · simp [h, or_comm]

@[simp] theorem mem_live_withoutLive :
    key ∈ (watcher.withoutLive id).live ↔ key ∈ watcher.live ∧ key ≠ id := by
  simp [withoutLive]

/-! ## Single events -/

theorem tracks_of (kind : OwnerKind) (queue : WorkQueue) :
    Tracks kind [] (.of (.of kind queue)) where
  ownerKind := rfl
  owners := fun _ => rfl
  live := fun key => by simp [Watcher.of, standing]
  candidates := rfl
  listing := rfl

/-- An event that carries one group revises the record of its key, to the owners of the group if the
event delivers it and to none if not. -/
theorem Tracks.revise {event : WatchEvent} {step : IndexStep} {owners : List ResourceId}
    {live : List ResourceId} (h : Tracks kind events watcher)
    (hresource : event.resource? = some resource) (hkey : resource.key = .ok id)
    (hstep : step.Revises watcher.index [⟨id, owners⟩])
    (howners : owners = (event.delivered?.map kind.route).getD [])
    (hlive : ∀ key, key ∈ live ↔ if key = id then event.delivered? ≠ none else key ∈ watcher.live) :
    Tracks kind (events ++ [event]) { watcher with live, index := step.index } where
  ownerKind := hstep.ownerKind.trans h.ownerKind
  owners := by
    intro key
    show step.index.owners key = _
    rw [hstep.owners, Ownership.reviseAll_cons, Ownership.reviseAll_nil, Ownership.owners_revise,
      standing_append_of_key hresource hkey]
    -- the revision and the event concern the same key, and leave all others alone
    by_cases hsame : key = id
    · rw [if_pos hsame, if_pos hsame, howners]
    · rw [if_neg hsame, if_neg hsame]
      exact h.owners key
  live := by
    intro key
    rw [hlive, standing_append_of_key hresource hkey]
    by_cases hsame : key = id
    · rw [if_pos hsame, if_pos hsame]
    · rw [if_neg hsame, if_neg hsame]
      exact h.live key
  candidates := h.candidates
  listing := h.listing

theorem Tracks.applied (h : Tracks kind events watcher) (hkey : resource.key = .ok id) :
    Tracks kind (events ++ [.applied resource]) (watcher.follow (.applied resource)).watcher := by
  rw [follow, hkey]
  refine h.revise rfl hkey (Index.revises_apply hkey) (by rw [h.ownerKind]; rfl) fun key => ?_
  rw [mem_live_withLive]
  by_cases hsame : key = id <;> simp [hsame, WatchEvent.delivered?]

theorem Tracks.deleted (h : Tracks kind events watcher) (hkey : resource.key = .ok id) :
    Tracks kind (events ++ [.deleted resource]) (watcher.follow (.deleted resource)).watcher := by
  rw [follow, hkey]
  refine h.revise rfl hkey (Index.revises_delete watchedKind id) rfl fun key => ?_
  rw [mem_live_withoutLive]
  by_cases hsame : key = id <;> simp [hsame, WatchEvent.delivered?]

theorem Tracks.listingBegun (h : Tracks kind events watcher) :
    Lists kind events [] (watcher.follow .listingBegun).watcher where
  ownerKind := h.ownerKind
  owners := h.owners
  live := by simp [follow]
  candidates := by
    intro key
    show key ∈ watcher.live ↔ _
    simp [h.live]
  listing := h.listing

/-- A group that is listed becomes live, and is a candidate no longer. -/
theorem Lists.listed (h : Lists kind before groups watcher) (hkey : resource.key = .ok id) :
    Lists kind before (groups ++ [resource]) (watcher.follow (.listed resource)).watcher := by
  have hlisted (key : ResourceId) :
      (∃ other ∈ groups ++ [resource], other.key = .ok key) ↔
        (∃ other ∈ groups, other.key = .ok key) ∨ key = id := by
    simp [or_and_right, exists_or, hkey, eq_comm]
  rw [follow, hkey]
  exact
    { ownerKind := h.ownerKind
      owners := h.owners
      live := by
        intro key
        rw [hlisted, ← h.live]
        show key ∈ (watcher.withLive id).live ↔ _
        rw [mem_live_withLive, or_comm]
      candidates := by
        intro key
        rw [hlisted, not_or, ← and_assoc, ← h.candidates]
        simp [withListed, withLive]
      listing := by
        show watcher.listing ++ [resource] = _
        rw [h.listing] }

/-- The records after a listing was applied, and before the candidates are deleted. -/
theorem owners_reviseAll_listed {ownership : Ownership} :
    (ownership.reviseAll (groups.filterMap (Subordinate.revision? kind))).owners key =
      ((standing key (before ++ .listingBegun :: groups.map .listed)).map kind.route).getD
        (ownership.owners key) := by
  -- a group that is listed last counts, also if its key was listed before
  induction groups using List.reverseRecOn with
  | nil => simp
  | append_singleton groups resource ih =>
      rw [List.filterMap_append, Ownership.reviseAll_append, standing_listing_append_singleton]
      cases hkey : resource.key with
      | error fault =>
          have hrevision : resource.revision? kind = none := by rw [Subordinate.revision?, hkey]
          rw [List.filterMap_cons_none hrevision, List.filterMap_nil, Ownership.reviseAll_nil, ih,
            if_neg (by simp)]
      | ok id =>
          have hrevision : resource.revision? kind = some ⟨id, kind.route resource⟩ := by
            rw [Subordinate.revision?, hkey]
          rw [List.filterMap_cons_some hrevision, List.filterMap_nil, Ownership.reviseAll_cons,
            Ownership.reviseAll_nil, Ownership.owners_revise, ih]
          by_cases hsame : key = id
          · simp [hsame]
          · rw [if_neg hsame, if_neg (by simpa [eq_comm] using hsame)]

/-- When a listing ends, the groups that were listed stand under their keys, and nothing stands under
the keys that are still candidates. -/
theorem Lists.listingEnded (h : Lists kind before groups watcher)
    (hkeyed : ∀ resource ∈ groups, ∃ id, resource.key = .ok id) :
    Tracks kind (before ++ .listingBegun :: groups.map .listed ++ [.listingEnded])
      (watcher.follow .listingEnded).watcher := by
  have hrevises := Index.revises_reset h.ownerKind watchedKind (h.listing ▸ hkeyed)
    watcher.candidates
  have hstanding (key : ResourceId) :
      standing key (before ++ .listingBegun :: groups.map .listed ++ [.listingEnded]) =
        standing key (before ++ .listingBegun :: groups.map .listed) := by
    rw [standing_append_singleton]
    rfl
  exact
    { ownerKind := hrevises.ownerKind.trans h.ownerKind
      owners := by
        intro key
        show (watcher.index.reset watchedKind watcher.listing watcher.candidates).index.owners key = _
        rw [hrevises.owners, h.listing, Ownership.reviseAll_append, Ownership.owners_reviseAll_forgetting,
          owners_reviseAll_listed, hstanding]
        by_cases hlisted : ∃ resource ∈ groups, resource.key = .ok key
        · -- the key was listed, so it is no candidate, and a group stands under it
          have hcandidate : key ∉ distinct watcher.candidates := by
            simp [h.candidates, hlisted]
          obtain ⟨resource, hresource⟩ :=
            Option.ne_none_iff_exists'.mp (standing_listing_ne_none_iff.mpr hlisted)
          rw [if_neg hcandidate, hresource]
          rfl
        · have hnone : standing key (before ++ .listingBegun :: groups.map .listed) = none :=
            not_ne_iff.mp fun hne => hlisted (standing_listing_ne_none_iff.mp hne)
          rw [hnone]
          by_cases hcandidate : key ∈ distinct watcher.candidates
          · rw [if_pos hcandidate]
            rfl
          · -- nothing stood under the key before, either
            have hbefore : standing key before = none := by
              by_contra hne
              exact hcandidate (mem_distinct.mpr ((h.candidates key).mpr ⟨hne, hlisted⟩))
            have howners : watcher.index.owners key = [] := by rw [h.owners, hbefore]; rfl
            rw [if_neg hcandidate]
            exact howners
      live := by
        intro key
        show key ∈ watcher.live ↔ _
        rw [h.live, hstanding, standing_listing_ne_none_iff]
      candidates := rfl
      listing := rfl }

end

end StatusRouter.Watcher
