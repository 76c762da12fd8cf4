import StatusRouter.Proofs.Routing.Listing

/-!
# The index replicates the watch

A watcher follows a stream of events, and between any two of them the receiver of the queue takes
keys out of it, or goes away.  `Reaches` says which watchers come out.  Whatever the receiver does,
and whatever the queue refuses, the records depend on the stream alone: if all groups of the stream
have keys and the stream is in order, no event is broken off, and as long as no listing is under way
the owners recorded under a key are those of the group that stands under it (`owners_of_reaches`).

The receiver is not part of `Tracks` and `Lists`, so that the invariant of a run is theirs, by the
phase that the stream has come to.
-/

namespace StatusRouter

/-! ## Runs -/

/-- What the receiver of a queue does to it. -/
inductive WorkQueue.Receives (queue : WorkQueue) : WorkQueue → Prop where
  | receive : Receives queue queue.receive.2
  | drain : Receives queue queue.drain.2
  | close : Receives queue queue.close

/-- The receiver only takes keys out, the first ones first. -/
theorem WorkQueue.Receives.items_suffix {queue after : WorkQueue} (h : queue.Receives after) :
    after.items <:+ queue.items := by
  cases h with
  | receive =>
      unfold WorkQueue.receive
      cases hitems : queue.items with
      | nil => simp [hitems]
      | cons id rest => exact List.suffix_cons id rest
  | drain => exact List.nil_suffix
  | close => exact List.nil_suffix

namespace Watcher

/-- The watchers that are reached from one over a stream of events, while the receiver does what it
likes in between. -/
inductive Reaches (start : Watcher) : List WatchEvent → Watcher → Prop where
  | refl : Reaches start [] start
  | follow {events : List WatchEvent} {watcher : Watcher} (event : WatchEvent)
    (h : Reaches start events watcher) :
    Reaches start (events ++ [event]) (watcher.follow event).watcher
  | receive {events : List WatchEvent} {watcher : Watcher} {queue : WorkQueue}
    (hqueue : watcher.index.queue.Receives queue) (h : Reaches start events watcher) :
    Reaches start events { watcher with index := { watcher.index with queue } }

variable {kind : OwnerKind} {queue : WorkQueue} {events : List WatchEvent} {start watcher : Watcher}

theorem Reaches.trans {middle last : Watcher} {earlier later : List WatchEvent}
    (hearlier : start.Reaches earlier middle) (hlater : middle.Reaches later last) :
    start.Reaches (earlier ++ later) last := by
  induction hlater with
  | refl => rwa [List.append_nil]
  | follow event _ ih =>
      rw [← List.append_assoc]
      exact .follow event ih
  | receive hqueue _ ih => exact .receive hqueue ih

/-- If no event is broken off while all keys are taken after each of them, then the watcher that
comes out is reached. -/
theorem reaches_observe (h : (watcher.observe events).2.2 = none) :
    watcher.Reaches events (watcher.observe events).2.1 := by
  induction events generalizing watcher with
  | nil => exact .refl
  | cons event rest ih =>
      unfold observe at h ⊢
      cases hfault : (watcher.follow event).fault with
      | some fault => simp [hfault] at h
      | none =>
          simp only [hfault] at h ⊢
          have hevent : watcher.Reaches [event] (watcher.follow event).watcher := .follow event .refl
          exact (Reaches.receive .drain hevent).trans (ih h)

/-! ## What a run preserves -/

/-- What is known of a watcher after a stream that is in order. -/
structure Replicates (kind : OwnerKind) (events : List WatchEvent) (watcher : Watcher) : Prop where
  idle : streamPhase events = .idle → Tracks kind events watcher
  listing : streamPhase events = .listing →
    ∃ before groups, events = before ++ .listingBegun :: groups.map .listed ∧
      (∀ resource ∈ groups, ∃ id, resource.key = .ok id) ∧ Lists kind before groups watcher

theorem replicates_of (kind : OwnerKind) (queue : WorkQueue) :
    Replicates kind [] (.of (.of kind queue)) where
  idle := fun _ => tracks_of kind queue
  listing := nofun

theorem Replicates.follow (h : Replicates kind events watcher) {event : WatchEvent}
    (hkeyed : event.Keyed) :
    Replicates kind (events ++ [event]) (watcher.follow event).watcher where
  idle := by
    intro hphase
    rw [streamPhase_append_singleton] at hphase
    rcases StreamPhase.next_eq_idle_iff.mp hphase with
      ⟨hidle, resource, rfl | rfl⟩ | ⟨hlisting, rfl⟩
    · obtain ⟨id, hkey⟩ := hkeyed resource rfl
      exact (h.idle hidle).applied hkey
    · obtain ⟨id, hkey⟩ := hkeyed resource rfl
      exact (h.idle hidle).deleted hkey
    · -- the groups of the listing were followed before, so they have keys
      obtain ⟨before, groups, rfl, hgroups, hlists⟩ := h.listing hlisting
      exact hlists.listingEnded hgroups
  listing := by
    intro hphase
    rw [streamPhase_append_singleton] at hphase
    rcases StreamPhase.next_eq_listing_iff.mp hphase with ⟨hidle, rfl⟩ | ⟨hlisting, resource, rfl⟩
    · exact ⟨events, [], rfl, by simp, (h.idle hidle).listingBegun⟩
    · obtain ⟨before, groups, rfl, hgroups, hlists⟩ := h.listing hlisting
      obtain ⟨id, hkey⟩ := hkeyed resource rfl
      refine ⟨before, groups ++ [resource], by simp, ?_, hlists.listed hkey⟩
      simpa [or_imp, forall_and, hkey] using hgroups

theorem Replicates.receive (h : Replicates kind events watcher) (queue : WorkQueue) :
    Replicates kind events { watcher with index := { watcher.index with queue } } where
  idle := fun hphase =>
    have htracks := h.idle hphase
    ⟨htracks.ownerKind, htracks.owners, htracks.live, htracks.candidates, htracks.listing⟩
  listing := by
    intro hphase
    obtain ⟨before, groups, hevents, hgroups, hlists⟩ := h.listing hphase
    exact ⟨before, groups, hevents, hgroups,
      ⟨hlists.ownerKind, hlists.owners, hlists.live, hlists.candidates, hlists.listing⟩⟩

theorem replicates_of_reaches (hreaches : (Watcher.of (.of kind queue)).Reaches events watcher)
    (hkeyed : ∀ event ∈ events, event.Keyed) : Replicates kind events watcher := by
  induction hreaches with
  | refl => exact replicates_of kind queue
  | follow event _ ih =>
      obtain ⟨hbefore, hevent⟩ := List.forall_mem_append.mp hkeyed
      exact (ih hbefore).follow (hevent event (List.mem_singleton.mpr rfl))
  | receive _ _ ih => exact (ih hkeyed).receive _

theorem index_follow_of_listing {event : WatchEvent}
    (h : event = .listingBegun ∨ ∃ resource, event = .listed resource) :
    (watcher.follow event).watcher.index = watcher.index := by
  rcases h with rfl | ⟨resource, rfl⟩
  · rfl
  · cases hkey : resource.key with
    | error fault => rw [Watcher.follow, hkey]
    | ok id =>
        rw [Watcher.follow, hkey]
        rfl

/-- While a listing is under way, the index stays as it is, and the queue can only lose keys. -/
theorem Reaches.index_of_listing (h : start.Reaches events watcher)
    (hevents : ∀ event ∈ events, event = .listingBegun ∨ ∃ resource, event = .listed resource) :
    watcher.index = { start.index with queue := watcher.index.queue } ∧
      watcher.index.queue.items <:+ start.index.queue.items := by
  induction h with
  | refl => exact ⟨rfl, List.suffix_rfl⟩
  | follow event _ ih =>
      obtain ⟨hbefore, hevent⟩ := List.forall_mem_append.mp hevents
      rw [index_follow_of_listing (hevent event (List.mem_singleton.mpr rfl))]
      exact ih hbefore
  | receive hqueue _ ih =>
      -- the queue is the one part of the index that the receiver changes
      obtain ⟨hindex, hitems⟩ := ih hevents
      refine ⟨?_, hqueue.items_suffix.trans hitems⟩
      rw [hindex]

/-- An event whose group has a key is not broken off, if the groups that were listed have keys. -/
theorem fault_follow {event : WatchEvent} (hkeyed : event.Keyed)
    (hlisting : ∀ resource ∈ watcher.listing, ∃ id, resource.key = .ok id) :
    (watcher.follow event).fault = none := by
  cases event with
  | applied resource =>
      obtain ⟨id, hkey⟩ := hkeyed resource rfl
      rw [Watcher.follow, hkey]
      exact (Index.revises_apply hkey).fault
  | deleted resource =>
      obtain ⟨id, hkey⟩ := hkeyed resource rfl
      have hdelete : (watcher.index.delete watchedKind id).Revises watcher.index [.forgetting id] :=
        Index.revises_delete watchedKind id
      rw [Watcher.follow, hkey]
      exact hdelete.fault
  | listingBegun => rfl
  | listed resource =>
      obtain ⟨id, hkey⟩ := hkeyed resource rfl
      rw [Watcher.follow, hkey]
  | listingEnded => exact (Index.revises_reset rfl watchedKind hlisting watcher.candidates).fault

/-! ## The records after a stream -/

/-- If the groups of a stream have keys, the stream is in order, and no listing is under way, then
the recorded owners under a key are those of the group that stands under it: the one that was last
delivered under the key, if it was not deleted since, nor a listing begun since that does not list
the key.  The keys under which a group stands are the live ones, and the size of the index is the
number of those that have owners.  No event is broken off.  While another listing is under way, the
index stays as it is, nothing is put in the queue, and no event is broken off either. -/
theorem owners_of_reaches (hreaches : (Watcher.of (.of kind queue)).Reaches events watcher)
    (hkeyed : ∀ event ∈ events, event.Keyed) (hphase : streamPhase events = .idle) :
    (∀ key, watcher.index.owners key = ((standing key events).map kind.route).getD []) ∧
    (∀ key, key ∈ watcher.live ↔ standing key events ≠ none) ∧
    (∀ key resource, standing key events = some resource ↔
      ∃ earlier last later, events = earlier ++ last :: later ∧
        last.Concerns key ∧ last.delivered? = some resource ∧
        ∀ event ∈ later, ¬ event.Concerns key) ∧
    watcher.index.size =
      {key | ∃ resource, standing key events = some resource ∧ kind.route resource ≠ []}.ncard ∧
    (∀ event : WatchEvent, event.Keyed → (watcher.follow event).fault = none) ∧
    ∀ (groups : List Subordinate) (during : Watcher),
      (∀ resource ∈ groups, ∃ id, resource.key = .ok id) →
      watcher.Reaches (.listingBegun :: groups.map .listed) during →
        during.index = { watcher.index with queue := during.index.queue } ∧
        during.index.queue.items <:+ watcher.index.queue.items ∧
        ∀ event : WatchEvent, event.Keyed → (during.follow event).fault = none := by
  have hreplicates : Replicates kind events watcher := replicates_of_reaches hreaches hkeyed
  have htracks : Tracks kind events watcher := hreplicates.idle hphase
  refine ⟨htracks.owners, htracks.live, fun key resource => standing_eq_some_iff, ?_, ?_, ?_⟩
  · have hset : {key | watcher.index.ownership.owners key ≠ []} =
        {key | ∃ resource, standing key events = some resource ∧ kind.route resource ≠ []} := by
      ext key
      have howners : watcher.index.ownership.owners key =
          ((standing key events).map kind.route).getD [] :=
        htracks.owners key
      rw [Set.mem_ofPred_eq, Set.mem_ofPred_eq, howners]
      cases standing key events <;> simp
    rw [Index.size, Ownership.size_eq_ncard, hset]
  · intro event hevent
    exact fault_follow hevent (by simp [htracks.listing])
  · intro groups during hgroups hduring
    -- the listing is the end of a longer stream, which is in order as well
    have hevents : ∀ event ∈ WatchEvent.listingBegun :: groups.map .listed,
        event = .listingBegun ∨ ∃ resource, event = .listed resource := by
      simp
    obtain ⟨hindex, hitems⟩ := hduring.index_of_listing hevents
    have hkeyedDuring : ∀ event ∈ events ++ .listingBegun :: groups.map .listed, event.Keyed := by
      simpa [or_imp, forall_and] using ⟨hkeyed, hgroups⟩
    obtain ⟨before, listed, -, hlisted, hlists⟩ :=
      (replicates_of_reaches (hreaches.trans hduring) hkeyedDuring).listing
        (streamPhase_listing hphase groups)
    exact ⟨hindex, hitems, fun event hevent => fault_follow hevent (hlists.listing ▸ hlisted)⟩

/-- A listing lists one group twice, at last without owners, leaves another out, and lists a third.
Then the third is deleted, and the one that was left out comes back with another owner.  It is the
only one that has owners. -/
theorem owners_of_reaches_of_relisting :
    let group (name : String) (owners : List Owner) : Subordinate :=
      ⟨"ConsumerGroup", some "ns", some name, none, owners⟩
    let events : List WatchEvent :=
      [.applied (group "shrinking" [⟨"KafkaSource", "a"⟩]),
        .applied (group "returning" [⟨"KafkaSource", "b"⟩]), .listingBegun,
        .listed (group "shrinking" [⟨"KafkaSource", "a"⟩]),
        .listed (group "leaving" [⟨"KafkaSource", "c"⟩]), .listed (group "shrinking" []),
        .listingEnded, .deleted (group "leaving" []),
        .applied (group "returning" [⟨"kafkasource", "d"⟩])]
    let start : Watcher := .of (.of (.ofKind "KafkaSource") ⟨some 1, [], false⟩)
    streamPhase events = .idle ∧ (∀ event ∈ events, event.Keyed) ∧
    ∃ watcher, start.Reaches events watcher ∧
      watcher.index.owners ⟨"ns", "shrinking"⟩ = [] ∧
      watcher.index.owners ⟨"ns", "leaving"⟩ = [] ∧
      watcher.index.owners ⟨"ns", "returning"⟩ = [⟨"ns", "d"⟩] ∧
      {key | ∃ resource, standing key events = some resource ∧
        (OwnerKind.ofKind "KafkaSource").route resource ≠ []}.ncard = 1 := by
  intro group events start
  have hphase : streamPhase events = .idle := rfl
  have hkeyed : ∀ event ∈ events, event.Keyed := by
    simp [events, group, WatchEvent.Keyed, WatchEvent.resource?, Subordinate.key]
  have hunbroken : (start.observe events).2.2 = none := by decide +kernel
  have hsize : (start.observe events).2.1.index.size = 1 := by decide +kernel
  have hreaches : start.Reaches events (start.observe events).2.1 :=
    reaches_observe hunbroken
  obtain ⟨howners, -, -, hncard, -⟩ := owners_of_reaches hreaches hkeyed hphase
  refine ⟨hphase, hkeyed, _, hreaches, ?_, ?_, ?_, hncard.symm.trans hsize⟩
  · rw [howners]
    decide +kernel
  · rw [howners]
    decide +kernel
  · rw [howners]
    decide +kernel

end Watcher

end StatusRouter
