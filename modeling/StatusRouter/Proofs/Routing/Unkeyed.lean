import StatusRouter.Proofs.Routing.Independence

/-!
# Updates of resources without a key

A resource without a namespace is ignored, and the update of one that has a namespace and no name is
broken off.  In both cases the update has been counted by then, and nothing else has been done.  No
operation reads the count.  So such updates may be put into a run anywhere, and all that the run does
is what it does without them, but for the count (`unaffected_run`).

Two indexes that differ in the count of updates only are compared by what they are without it
(`Index.uncounted`).  What an operation makes of an index is, apart from the count, what it makes of
the index without its count; for a row of operations this follows step by step, since a row is broken
off in both or in neither (`IgnoresCount.sequence`).
-/

namespace StatusRouter

/-! ## An index without its count of updates -/

/-- The index with no updates counted. -/
def Index.uncounted (index : Index) : Index :=
  { index with metrics := { index.metrics with applies := .empty } }

/-- The step with no updates counted. -/
def IndexStep.uncounted (step : IndexStep) : IndexStep :=
  { step with index := step.index.uncounted }

/-- The count of updates has no say in what an operation does, apart from the count itself. -/
def IgnoresCount (operation : Index → IndexStep) : Prop :=
  ∀ index, (operation index.uncounted).uncounted = (operation index).uncounted

namespace IgnoresCount

variable {operation next : Index → IndexStep} {operations : List (Index → IndexStep)}
  {index other : Index}

theorem congr (h : IgnoresCount operation) (hindex : index.uncounted = other.uncounted) :
    (operation index).uncounted = (operation other).uncounted := by
  rw [← h index, hindex, h other]

theorem andThen (h : IgnoresCount operation) (hnext : IgnoresCount next) :
    IgnoresCount fun index => (operation index).andThen next := by
  intro index
  obtain ⟨hindex, hevents, hfault⟩ := IndexStep.mk.inj (h index)
  -- both steps are broken off, or neither is
  simp only [IndexStep.andThen, hfault]
  cases (operation index).fault with
  | some fault => simp [IndexStep.uncounted, hindex, hevents, hfault]
  | none =>
      obtain ⟨hnextIndex, hnextEvents, hnextFault⟩ := IndexStep.mk.inj (hnext.congr hindex)
      simp [IndexStep.uncounted, hnextIndex, hnextEvents, hnextFault, hevents]

theorem sequence (h : ∀ operation ∈ operations, IgnoresCount operation) :
    IgnoresCount fun index => index.sequence operations := by
  induction operations with
  | nil => exact fun index => rfl
  | cons operation rest ih =>
      obtain ⟨hfirst, hrest⟩ := List.forall_mem_cons.mp h
      exact hfirst.andThen (ih hrest)

end IgnoresCount

namespace Index

theorem ignoresCount_apply (resource : Subordinate) :
    IgnoresCount fun index => index.apply resource := by
  intro index
  simp only [apply]
  cases resource.namespace with
  | none => rfl
  | some ns =>
      cases resource.name with
      | none => rfl
      | some name =>
          simp only [record, offerAll_eq]
          rfl

theorem ignoresCount_delete (kind : String) (subordinate : ResourceId) :
    IgnoresCount fun index => index.delete kind subordinate := by
  intro index
  simp only [delete, offerAll_eq]
  rfl

theorem ignoresCount_perform (operation : Operation) :
    IgnoresCount fun index => index.perform operation := by
  cases operation with
  | applying resource => exact ignoresCount_apply resource
  | deleting kind subordinate => exact ignoresCount_delete kind subordinate
  | resetting kind resources removed =>
      refine IgnoresCount.sequence fun operation hoperation => ?_
      rcases List.mem_append.mp hoperation with hupdate | hdeletion
      · obtain ⟨resource, -, rfl⟩ := List.mem_map.mp hupdate
        exact ignoresCount_apply resource
      · obtain ⟨id, -, rfl⟩ := List.mem_map.mp hdeletion
        exact ignoresCount_delete kind id

/-- Updating a resource without a key counts the update, and does no more. -/
theorem index_apply_of_unkeyed {resource : Subordinate}
    (h : resource.namespace = none ∨ resource.name = none) (index : Index) :
    (index.apply resource).index =
      { index with metrics := index.metrics.applied resource.kind } := by
  cases hnamespace : resource.namespace with
  | none => rw [apply_of_noNamespace hnamespace]
  | some ns =>
      have hname : resource.name = none := h.resolve_left (by simp [hnamespace])
      rw [apply_of_noName hnamespace hname]

/-! ## Runs that updates are put into -/

/-- What an action answers: what it reports, the text of why it was broken off, and the key that is
received. -/
structure Answer where
  events : List LogEvent
  fault : Option String
  received : Option ResourceId
  deriving DecidableEq

/-- What an action answers at an index. -/
def Action.answer (index : Index) : Action → Answer
  | .performing operation =>
    let step := index.perform operation
    ⟨step.events, step.fault.map ResourceFault.message, none⟩
  | .receiving => ⟨[], none, index.queue.receive.1⟩
  | .closing => ⟨[], none, none⟩

/-- An action of a run that updates are put into, or one of these updates. -/
inductive Entry where
  | own (action : Action)
  | added (resource : Subordinate)
  deriving DecidableEq

/-- What is done at an entry. -/
def Entry.action : Entry → Action
  | own action => action
  | added resource => .performing (.applying resource)

/-- The actions of the run without the updates that are put into it. -/
def ownActions (entries : List Entry) : List Action :=
  entries.filterMap fun
    | .own action => some action
    | .added _ => none

/-- The kinds of the resources whose updates are put into the run. -/
def addedKinds (entries : List Entry) : List String :=
  entries.filterMap fun
    | .own _ => none
    | .added resource => some resource.kind

@[simp] theorem ownActions_append (entries later : List Entry) :
    ownActions (entries ++ later) = ownActions entries ++ ownActions later :=
  List.filterMap_append

@[simp] theorem addedKinds_append (entries later : List Entry) :
    addedKinds (entries ++ later) = addedKinds entries ++ addedKinds later :=
  List.filterMap_append

/-- An index differs from another one in the count of updates at most, and by these. -/
structure Unaffected (kinds : List String) (index plain : Index) : Prop where
  uncounted : index.uncounted = plain.uncounted
  applies : ∀ kind,
    index.metrics.applies.count kind = plain.metrics.applies.count kind + kinds.count kind

variable {kinds : List String} {index plain : Index} {trace plainTrace : Trace}

theorem Unaffected.answer (h : Unaffected kinds index plain) (action : Action) :
    action.answer index = action.answer plain := by
  cases action with
  | performing operation =>
      obtain ⟨-, hevents, hfault⟩ :=
        IndexStep.mk.inj ((ignoresCount_perform operation).congr h.uncounted)
      rw [Action.answer, Action.answer, hevents, hfault]
  | receiving =>
      have hqueue : index.queue = plain.queue := (Index.mk.inj h.uncounted).2.1
      rw [Action.answer, Action.answer, hqueue]
  | closing => rfl

theorem Unaffected.next (h : Unaffected kinds trace.index plainTrace.index) (action : Action) :
    Unaffected kinds (trace.next action).index (plainTrace.next action).index := by
  cases action with
  | performing operation =>
      refine ⟨congrArg IndexStep.index ((ignoresCount_perform operation).congr h.uncounted),
        fun kind => ?_⟩
      have hcounted := (counted_perform trace.index operation).1
      have hplain := (counted_perform plainTrace.index operation).1
      rw [Trace.next, Trace.next, hcounted, hplain, CounterFamily.count_raiseAll,
        CounterFamily.count_raiseAll, h.applies kind, Nat.add_right_comm]
  | receiving =>
      exact ⟨congrArg (fun index : Index => { index with queue := index.queue.receive.2 })
        h.uncounted, h.applies⟩
  | closing =>
      exact ⟨congrArg (fun index : Index => { index with queue := index.queue.close })
        h.uncounted, h.applies⟩

theorem Unaffected.apply (h : Unaffected kinds index plain) {resource : Subordinate}
    (hunkeyed : resource.namespace = none ∨ resource.name = none) :
    Unaffected (kinds ++ [resource.kind]) (index.apply resource).index plain := by
  rw [index_apply_of_unkeyed hunkeyed]
  refine ⟨h.uncounted, fun kind => ?_⟩
  have hcount : (index.metrics.applies.raise resource.kind).count kind = _ :=
    CounterFamily.count_raise index.metrics.applies resource.kind kind
  rw [IndexMetrics.applied, hcount, h.applies kind, List.count_append, List.count_singleton',
    Nat.add_assoc]
  simp only [eq_comm (a := kind)]

theorem unaffected_run (index : Index) (entries : List Entry)
    (hunkeyed : ∀ resource, .added resource ∈ entries →
      resource.namespace = none ∨ resource.name = none) :
    Unaffected (addedKinds entries) (index.run (entries.map Entry.action)).index
      (index.run (ownActions entries)).index := by
  -- from the end: an action of the run is a step of both runs, an added update of the longer one only
  induction entries using List.reverseRecOn with
  | nil => exact ⟨rfl, fun _ => rfl⟩
  | append_singleton entries last ih =>
      have hearlier := ih fun resource hmem => hunkeyed resource (List.mem_append_left _ hmem)
      rw [List.map_append, List.map_singleton, run_append_singleton, ownActions_append,
        addedKinds_append]
      cases last with
      | own action =>
          have hkinds : addedKinds [.own action] = [] := rfl
          have hactions : ownActions [.own action] = [action] := rfl
          rw [hkinds, hactions, List.append_nil, run_append_singleton]
          exact hearlier.next action
      | added resource =>
          have hkinds : addedKinds [.added resource] = [resource.kind] := rfl
          have hactions : ownActions [.added resource] = [] := rfl
          rw [hkinds, hactions, List.append_nil]
          exact hearlier.apply (hunkeyed resource (by simp))

/-- Updates of resources that have no namespace, or have a namespace and no name, are put into a run
of an index anywhere.  All actions of the run answer what they answer without them: an operation
reports the same events and is broken off or not for the same reason, and the receiver takes the same
key.  An update that is put in is reported as ignored if there is no namespace, and otherwise is broken
off without a report.  In the end the index is the same, but for the count of updates of each kind,
which is larger by the number of updates of that kind that were put in. -/
theorem intact_of_unkeyed_updates (index : Index) (entries : List Entry)
    (hunkeyed : ∀ resource, .added resource ∈ entries →
      resource.namespace = none ∨ resource.name = none) :
    let last := (index.run (entries.map Entry.action)).index
    let plain := (index.run (ownActions entries)).index
    (∀ earlier action later, entries = earlier ++ .own action :: later →
      action.answer (index.run (earlier.map Entry.action)).index =
        action.answer (index.run (ownActions earlier)).index) ∧
    (∀ earlier resource later, entries = earlier ++ .added resource :: later →
      (Entry.added resource).action.answer (index.run (earlier.map Entry.action)).index =
        if resource.namespace = none then ⟨[ignoring resource], none, none⟩
        else ⟨[], some ".metadata.name missing", none⟩) ∧
    last = { plain with
      metrics := { plain.metrics with applies := last.metrics.applies } } ∧
    ∀ kind, last.metrics.applies.count kind =
      plain.metrics.applies.count kind + (addedKinds entries).count kind := by
  intro last plain
  have hlast : Unaffected (addedKinds entries) last plain := index.unaffected_run entries hunkeyed
  refine ⟨?_, ?_, ?_, hlast.applies⟩
  · rintro earlier action later rfl
    have hearlier := index.unaffected_run earlier fun resource hmem =>
      hunkeyed resource (List.mem_append_left _ hmem)
    exact hearlier.answer action
  · rintro earlier resource later rfl
    have hresource : resource.namespace = none ∨ resource.name = none :=
      hunkeyed resource (by simp)
    rw [Entry.action, Action.answer, perform]
    split
    · rename_i hnamespace
      rw [apply_of_noNamespace hnamespace]
      rfl
    · rename_i hnamespace
      obtain ⟨ns, hsome⟩ := Option.ne_none_iff_exists'.mp hnamespace
      rw [apply_of_noName hsome (hresource.resolve_left hnamespace)]
      rfl
  · exact congrArg (fun other : Index => { other with
      metrics := { other.metrics with applies := last.metrics.applies } }) hlast.uncounted

/-- A queue has room for one key.  A group without a namespace and groups without a name, all with
owners, are updated before and between an update that overfills the queue, a receive and a listing.
The receiver takes the key that it takes without them, the listing drops the keys that it drops
without them, the records and the queue are the same in the end, and three more updates of groups are
counted. -/
theorem intact_of_unkeyed_updates_of_full_queue :
    let group (name : String) (owners : List Owner) : Subordinate :=
      ⟨"ConsumerGroup", some "ns", some name, none, owners⟩
    let placeless : Subordinate :=
      ⟨"ConsumerGroup", none, some "first", none, [⟨"KafkaSource", "c"⟩]⟩
    let nameless : Subordinate :=
      ⟨"ConsumerGroup", some "ns", none, some "first-", [⟨"KafkaSource", "c"⟩]⟩
    let update : Action := .performing
      (.applying (group "first" [⟨"KafkaSource", "a"⟩, ⟨"KafkaSource", "b"⟩]))
    let listing : Action := .performing
      (.resetting "ConsumerGroup" [group "second" [⟨"KafkaSource", "d"⟩]] [⟨"ns", "first"⟩])
    let index := Index.of (.ofKind "KafkaSource") ⟨some 1, [], false⟩
    let entries : List Entry :=
      [.added placeless, .own update, .added nameless, .own .receiving, .added nameless,
        .own listing]
    let last := (index.run (entries.map Entry.action)).index
    (∀ resource, .added resource ∈ entries →
      resource.namespace = none ∨ resource.name = none) ∧
    Action.receiving.answer
        (index.run ([Entry.added placeless, .own update, .added nameless].map Entry.action)).index =
      ⟨[], none, some ⟨"ns", "a"⟩⟩ ∧
    (Entry.added nameless).action.answer
        (index.run ([Entry.added placeless, .own update].map Entry.action)).index =
      ⟨[], some ".metadata.name missing", none⟩ ∧
    last.owners ⟨"ns", "second"⟩ = [⟨"ns", "d"⟩] ∧ last.queue.items = [⟨"ns", "d"⟩] ∧
    last.metrics.dropped.count "kafkasource" = 3 ∧
    last.metrics.applies.count "ConsumerGroup" = 5 := by
  intro group placeless nameless update listing index entries last
  have hunkeyed : ∀ resource, .added resource ∈ entries →
      resource.namespace = none ∨ resource.name = none := by
    simp [entries, placeless, nameless]
  obtain ⟨hown, hadded, hlast, happlies⟩ := intact_of_unkeyed_updates index entries hunkeyed
  refine ⟨hunkeyed, ?_, ?_, ?_, ?_, ?_, ?_⟩
  · rw [hown _ _ [.added nameless, .own listing] rfl]
    decide +kernel
  · rw [hadded _ _ [.own .receiving, .added nameless, .own listing] rfl]
    rfl
  · rw [congrArg (Index.owners · ⟨"ns", "second"⟩) hlast]
    decide +kernel
  · rw [congrArg (·.queue.items) hlast]
    decide +kernel
  · rw [congrArg (·.metrics.dropped.count "kafkasource") hlast]
    decide +kernel
  · rw [happlies]
    decide +kernel

end Index

end StatusRouter
