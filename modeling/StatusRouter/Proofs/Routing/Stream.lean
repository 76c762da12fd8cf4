import StatusRouter.Proofs.LastWord
import StatusRouter.Routing.Watch

/-!
# Streams of watch events

A stream of events is in order if groups are listed, and listings end, only after a listing began,
and if nothing else happens until it ends.  `streamPhase` says how far a stream has come.

What stands under a key is told by the stream alone: the group that was last delivered under the key,
by an update or in a listing, unless the group was deleted or a listing began since.  A listing puts
all keys in question when it begins, so once it has ended, a key that it did not list has nothing
standing under it (`standing_eq_some_iff`).
-/

namespace StatusRouter

namespace WatchEvent

/-- The group that an event carries. -/
def resource? : WatchEvent → Option Subordinate
  | .applied resource | .deleted resource | .listed resource => some resource
  | .listingBegun | .listingEnded => none

/-- The group that an event delivers as one that exists. -/
def delivered? : WatchEvent → Option Subordinate
  | .applied resource | .listed resource => some resource
  | .deleted _ | .listingBegun | .listingEnded => none

/-- The group that an event carries, if any, has a key. -/
def Keyed (event : WatchEvent) : Prop :=
  ∀ resource, event.resource? = some resource → ∃ id, resource.key = .ok id

@[simp] theorem keyed_listingBegun : WatchEvent.listingBegun.Keyed := nofun

@[simp] theorem keyed_listed {resource : Subordinate} :
    (WatchEvent.listed resource).Keyed ↔ ∃ id, resource.key = .ok id := by
  simp [Keyed, resource?]

/-- An event has a say in what stands under a key. -/
def Concerns (key : ResourceId) : WatchEvent → Prop
  | .applied resource | .deleted resource | .listed resource => resource.key = .ok key
  | .listingBegun => True
  | .listingEnded => False

instance (key : ResourceId) (event : WatchEvent) : Decidable (event.Concerns key) :=
  match event with
  | .applied resource | .deleted resource | .listed resource =>
    inferInstanceAs (Decidable (resource.key = .ok key))
  | .listingBegun => .isTrue trivial
  | .listingEnded => .isFalse id

end WatchEvent

/-- How far a stream of events has come. -/
inductive StreamPhase where
  /-- No listing is under way. -/
  | idle
  | listing
  /-- An event came out of order. -/
  | disorderly
  deriving DecidableEq

/-- How far a stream has come after another event. -/
def StreamPhase.next : StreamPhase → WatchEvent → StreamPhase
  | .idle, .applied _ | .idle, .deleted _ => .idle
  | .idle, .listingBegun => .listing
  | .listing, .listed _ => .listing
  | .listing, .listingEnded => .idle
  | _, _ => .disorderly

theorem StreamPhase.next_eq_idle_iff {phase : StreamPhase} {event : WatchEvent} :
    phase.next event = .idle ↔
      (phase = .idle ∧ ∃ resource, event = .applied resource ∨ event = .deleted resource) ∨
        (phase = .listing ∧ event = .listingEnded) := by
  cases phase <;> cases event <;> simp [next]

theorem StreamPhase.next_eq_listing_iff {phase : StreamPhase} {event : WatchEvent} :
    phase.next event = .listing ↔
      (phase = .idle ∧ event = .listingBegun) ∨
        (phase = .listing ∧ ∃ resource, event = .listed resource) := by
  cases phase <;> cases event <;> simp [next]

/-- How far a stream has come. -/
def streamPhase (events : List WatchEvent) : StreamPhase :=
  events.foldl StreamPhase.next .idle

@[simp] theorem streamPhase_append_singleton (events : List WatchEvent) (event : WatchEvent) :
    streamPhase (events ++ [event]) = (streamPhase events).next event := by
  rw [streamPhase, List.foldl_append]
  rfl

theorem streamPhase_listing {before : List WatchEvent} (h : streamPhase before = .idle)
    (listed : List Subordinate) :
    streamPhase (before ++ .listingBegun :: listed.map .listed) = .listing := by
  induction listed using List.reverseRecOn with
  | nil =>
      rw [List.map_nil, streamPhase_append_singleton, h]
      rfl
  | append_singleton listed resource ih =>
      rw [List.map_append, List.map_singleton, ← List.cons_append, ← List.append_assoc,
        streamPhase_append_singleton, ih]
      rfl

/-- The group that stands under a key after a stream of events. -/
def standing (key : ResourceId) (events : List WatchEvent) : Option Subordinate :=
  events.foldl (fun before event => if event.Concerns key then event.delivered? else before) none

variable {key : ResourceId} {events : List WatchEvent}

theorem standing_append_singleton (event : WatchEvent) :
    standing key (events ++ [event]) =
      if event.Concerns key then event.delivered? else standing key events := by
  rw [standing, List.foldl_append]
  rfl

/-- An event that carries a group has a say in the key of the group, and in no other. -/
theorem WatchEvent.concerns_iff {event : WatchEvent} {resource : Subordinate} {id : ResourceId}
    (hresource : event.resource? = some resource) (hkey : resource.key = .ok id) :
    event.Concerns key ↔ key = id := by
  have hok : resource.key = .ok key ↔ key = id := by simp [hkey, eq_comm]
  cases event with
  | listingBegun => simp [resource?] at hresource
  | listingEnded => simp [resource?] at hresource
  | _ =>
      obtain rfl := Option.some.inj hresource
      exact hok

theorem standing_append_of_key {event : WatchEvent} {resource : Subordinate} {id : ResourceId}
    (hresource : event.resource? = some resource) (hkey : resource.key = .ok id) :
    standing key (events ++ [event]) =
      if key = id then event.delivered? else standing key events := by
  simp only [standing_append_singleton, event.concerns_iff hresource hkey]

/-- A group stands under a key exactly if it was delivered by the last event with a say in the key. -/
theorem standing_eq_some_iff {resource : Subordinate} :
    standing key events = some resource ↔
      ∃ earlier last later, events = earlier ++ last :: later ∧
        last.Concerns key ∧ last.delivered? = some resource ∧
        ∀ event ∈ later, ¬ event.Concerns key := by
  have hset : SetBy (fun _ event => WatchEvent.Concerns key event) WatchEvent.delivered?
      (standing key) :=
    { nil := rfl
      spoken := fun earlier last h => by rw [standing_append_singleton, if_pos h]
      silent := fun earlier last h => by rw [standing_append_singleton, if_neg h] }
  rw [hset.eq_some_iff]
  constructor
  · rintro ⟨earlier, last, later, ⟨hsplit, hspoken, hsilent⟩, hdelivered⟩
    refine ⟨earlier, last, later, hsplit, hspoken, hdelivered, fun event hevent => ?_⟩
    obtain ⟨between, rest, hlater⟩ := List.append_of_mem hevent
    exact hsilent between event rest hlater
  · rintro ⟨earlier, last, later, hsplit, hspoken, hdelivered, hsilent⟩
    refine ⟨earlier, last, later, ⟨hsplit, hspoken, fun between next rest hlater => ?_⟩, hdelivered⟩
    exact hsilent next (by simp [hlater])

/-! ## A listing -/

section

variable {before : List WatchEvent} {listed : List Subordinate}

@[simp] theorem standing_listingBegun : standing key (before ++ [.listingBegun]) = none := by
  rw [standing_append_singleton]
  rfl

theorem standing_listing_append_singleton (resource : Subordinate) :
    standing key (before ++ .listingBegun :: (listed ++ [resource]).map .listed) =
      if resource.key = .ok key then some resource
      else standing key (before ++ .listingBegun :: listed.map .listed) := by
  rw [List.map_append, List.map_singleton, ← List.cons_append, ← List.append_assoc,
    standing_append_singleton]
  rfl

/-- In a listing, something stands under the keys that were listed. -/
theorem standing_listing_ne_none_iff :
    standing key (before ++ .listingBegun :: listed.map .listed) ≠ none ↔
      ∃ resource ∈ listed, resource.key = .ok key := by
  induction listed using List.reverseRecOn with
  | nil => simp
  | append_singleton listed resource ih =>
      rw [standing_listing_append_singleton]
      by_cases hkey : resource.key = .ok key
      · simp [hkey]
      · rw [if_neg hkey, ih]
        simp [hkey]

end

end StatusRouter
