import StatusRouter.Routing.Index

/-!
# Watching consumer groups

A watch reports consumer groups as they are updated and deleted.  From time to time it lists all of
them anew: the listing begins, each group is listed, and the listing ends; groups that were known
before and are not listed are gone.  The watcher remembers which keys are live, so that it can tell
the index at the end of a listing which of them to delete.
-/

namespace StatusRouter

/-- What a watch reports. -/
inductive WatchEvent where
  | applied (resource : Subordinate)
  | deleted (resource : Subordinate)
  | listingBegun
  | listed (resource : Subordinate)
  | listingEnded
  deriving DecidableEq

/-- What a watcher remembers, and the index that it keeps up to date. -/
structure Watcher where
  index : Index
  /-- The keys of the groups that exist. -/
  live : List ResourceId
  /-- The keys that were live before the listing and have not been listed. -/
  candidates : List ResourceId
  /-- The groups that have been listed, in order. -/
  listing : List Subordinate

/-- What an event leads to. -/
structure WatchStep where
  watcher : Watcher
  events : List LogEvent
  fault : Option ResourceFault

/-- The key of a resource, if it has both parts of one. -/
def Subordinate.key (resource : Subordinate) : Except ResourceFault ResourceId :=
  match resource.namespace, resource.name with
  | none, _ => .error .noNamespace
  | some _, none => .error .noName
  | some ns, some name => .ok ⟨ns, name⟩

namespace Watcher

/-- A watcher that knows no groups. -/
def of (index : Index) : Watcher := ⟨index, [], [], []⟩

variable (watcher : Watcher)

/-- The watcher with a key added to the live ones. -/
def withLive (id : ResourceId) : Watcher :=
  { watcher with live := if id ∈ watcher.live then watcher.live else watcher.live ++ [id] }

/-- The watcher with a key taken out of the live ones. -/
def withoutLive (id : ResourceId) : Watcher :=
  { watcher with live := watcher.live.filter (· ≠ id) }

/-- The watcher with a group added to the listing. -/
def withListed (resource : Subordinate) (id : ResourceId) : Watcher :=
  { watcher with
    candidates := watcher.candidates.filter (· ≠ id)
    listing := watcher.listing ++ [resource] }

/-- Hands a step of the index on. -/
def after (step : IndexStep) : WatchStep :=
  ⟨{ watcher with index := step.index }, step.events, step.fault⟩

/-- The kind of the subordinates that are watched. -/
def watchedKind : String := ResourceKind.consumerGroup.kind

/-- Follows an event.  A group without a key breaks it off before anything is done. -/
def follow : WatchEvent → WatchStep
  | .applied resource =>
    match resource.key with
    | .error fault => ⟨watcher, [], some fault⟩
    | .ok id => (watcher.withLive id).after (watcher.index.apply resource)
  | .deleted resource =>
    match resource.key with
    | .error fault => ⟨watcher, [], some fault⟩
    | .ok id => (watcher.withoutLive id).after (watcher.index.delete watchedKind id)
  | .listingBegun => ⟨{ watcher with candidates := watcher.live, live := [] }, [], none⟩
  | .listed resource =>
    match resource.key with
    | .error fault => ⟨watcher, [], some fault⟩
    | .ok id => ⟨(watcher.withLive id).withListed resource id, [], none⟩
  | .listingEnded =>
    ({ watcher with candidates := [], listing := [] } : Watcher).after
      (watcher.index.reset watchedKind watcher.listing watcher.candidates)

/-- What came of one event: the keys that it put in the queue, the number of records after it, and
what was reported. -/
structure Observation where
  enqueued : List ResourceId
  size : Nat
  events : List LogEvent

/-- Follows events while a receiver takes all keys after each of them, until an event is broken off.
The keys of a listing that ended are given in order, since the order in which it deletes is not
fixed. -/
def observe (watcher : Watcher) : List WatchEvent →
    List Observation × Watcher × Option ResourceFault
  | [] => ([], watcher, none)
  | event :: rest =>
    let step := watcher.follow event
    match step.fault with
    | some fault => ([], step.watcher, some fault)
    | none =>
      let (ids, queue) := step.watcher.index.queue.drain
      let watcher := { step.watcher with index := { step.watcher.index with queue } }
      let ids := if event = .listingEnded then ResourceId.sort ids else ids
      let (observations, last) := observe watcher rest
      (⟨ids, watcher.index.size, step.events⟩ :: observations, last)

end Watcher

end StatusRouter
