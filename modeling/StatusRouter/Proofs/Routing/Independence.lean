import StatusRouter.Proofs.Routing.Commutation
import StatusRouter.Proofs.Routing.Conservation
import StatusRouter.Proofs.Routing.Record

/-!
# The queue has no say in the bookkeeping

Two runs of an index perform the same operations, but their queues have room for different numbers of
keys, and between the operations their receivers take keys, or go away, at different times.  So the
queues accept different keys.  The bookkeeping of the index is the same in both: the recorded owners,
their number, the gauge, the counters of updates and of deletions, and the keys that are offered to
the queue, in order.

Instead of comparing two runs, `bookkeeping_run` reads the bookkeeping off the edits of one run.  The
queue does not occur there, and the edits are those of the operations.
-/

namespace StatusRouter.Index

open WorkQueue (offeredIn)

/-- The operation that an action performs. -/
def Action.operation? : Action → Option Operation
  | .performing operation => some operation
  | .receiving | .closing => none

/-- What an index keeps on its books, and the keys that it has offered. -/
structure Bookkeeping where
  owners : ResourceId → List ResourceId
  size : Nat
  gauge : Nat
  applies : CounterFamily
  deletes : CounterFamily
  offered : List ResourceId

/-- The bookkeeping of a run so far. -/
def Trace.bookkeeping (trace : Trace) : Bookkeeping where
  owners := trace.index.owners
  size := trace.index.size
  gauge := trace.index.metrics.size
  applies := trace.index.metrics.applies
  deletes := trace.index.metrics.deletes
  offered := offeredIn trace.history

/-- The bookkeeping after each of the operations that follow. -/
def Trace.bookkeepings (trace : Trace) : List Action → List Bookkeeping
  | [] => []
  | action :: rest =>
    let after := trace.next action
    (action.operation?.map fun _ => after.bookkeeping).toList ++ after.bookkeepings rest

variable {ownerKind : OwnerKind} {edits : List Edit} {trace : Trace}

/-! ## What the edits tell -/

/-- The bookkeeping of edits that are made by an index without records. -/
def Bookkeeping.ofEdits (ownerKind : OwnerKind) (edits : List Edit) : Bookkeeping :=
  let revisions := edits.filterMap (Edit.revision? ownerKind)
  let ownership := Ownership.empty.reviseAll revisions
  { owners := ownership.owners
    size := ownership.size
    gauge := ownership.size
    applies := CounterFamily.empty.raiseAll (edits.filterMap Edit.updatedKind?)
    deletes := CounterFamily.empty.raiseAll (edits.filterMap Edit.deletedKind?)
    offered := Ownership.empty.offersAll revisions }

/-- The edits are counted, and what they offer has been offered. -/
structure Counted (ownerKind : OwnerKind) (edits : List Edit) (trace : Trace) : Prop where
  applies : trace.index.metrics.applies =
    CounterFamily.empty.raiseAll (edits.filterMap Edit.updatedKind?)
  deletes : trace.index.metrics.deletes =
    CounterFamily.empty.raiseAll (edits.filterMap Edit.deletedKind?)
  offered : offeredIn trace.history =
    Ownership.empty.offersAll (edits.filterMap (Edit.revision? ownerKind))

theorem counted_perform (index : Index) (operation : Operation) :
    (index.perform operation).index.metrics.applies =
        index.metrics.applies.raiseAll (operation.edits.filterMap Edit.updatedKind?) ∧
      (index.perform operation).index.metrics.deletes =
        index.metrics.deletes.raiseAll (operation.edits.filterMap Edit.deletedKind?) := by
  have hindex : (index.perform operation).index = (index.editAll operation.edits).1 :=
    congrArg Prod.fst (index.perform_eq_editAll operation)
  rw [hindex]
  exact counted_editAll index operation.edits

/-- What an operation offers is told by the records, and they are told by the earlier edits. -/
theorem Counted.next (h : Counted ownerKind edits trace)
    (hrecords : Records ownerKind edits trace.index) (action : Action) :
    Counted ownerKind (edits ++ action.edits) (trace.next action) := by
  cases action with
  | performing operation =>
      obtain ⟨happlies, hdeletes⟩ := trace.index.counted_perform operation
      have hoffered : offeredIn ((operation.offered trace.index).map .offering) =
          operation.offered trace.index := by
        simp [offeredIn, List.filterMap_map]
      exact
        { applies := by
            rw [List.filterMap_append, CounterFamily.raiseAll_append, ← h.applies]
            exact happlies
          deletes := by
            rw [List.filterMap_append, CounterFamily.raiseAll_append, ← h.deletes]
            exact hdeletes
          offered := by
            rw [Trace.next, WorkQueue.offeredIn_append, h.offered, hoffered, Operation.offered,
              hrecords.kind, hrecords.ownership, List.filterMap_append,
              ← Ownership.offersAll_append]
            rfl }
  | receiving | closing =>
      rw [Action.edits, List.append_nil]
      refine ⟨h.applies, h.deletes, ?_⟩
      rw [Trace.next, WorkQueue.offeredIn_append, h.offered]
      exact List.append_nil _

theorem counted_run (ownerKind : OwnerKind) (queue : WorkQueue) (actions : List Action) :
    Counted ownerKind (actions.flatMap Action.edits)
      ((Index.of ownerKind queue).run actions) := by
  induction actions using List.reverseRecOn with
  | nil => exact ⟨rfl, rfl, rfl⟩
  | append_singleton actions action ih =>
      rw [run_append_singleton, List.flatMap_append, List.flatMap_singleton]
      exact ih.next (records_run ownerKind queue actions) action

theorem bookkeeping_run (ownerKind : OwnerKind) (queue : WorkQueue) (actions : List Action) :
    ((Index.of ownerKind queue).run actions).bookkeeping =
      .ofEdits ownerKind (actions.flatMap Action.edits) := by
  have hrecords := records_run ownerKind queue actions
  have hcounted := counted_run ownerKind queue actions
  have hsize : ((Index.of ownerKind queue).run actions).index.size =
      (Ownership.empty.reviseAll ((actions.flatMap Action.edits).filterMap
        (Edit.revision? ownerKind))).size :=
    congrArg Ownership.size hrecords.ownership
  rw [Trace.bookkeeping, Bookkeeping.ofEdits, Bookkeeping.mk.injEq]
  exact ⟨congrArg Ownership.owners hrecords.ownership, hsize, hrecords.size.trans hsize,
    hcounted.applies, hcounted.deletes, hcounted.offered⟩

/-- The bookkeeping after each operation, if edits have been made before. -/
def Bookkeeping.entries (ownerKind : OwnerKind) (edits : List Edit) :
    List Operation → List Bookkeeping
  | [] => []
  | operation :: rest =>
    ofEdits ownerKind (edits ++ operation.edits) :: entries ownerKind (edits ++ operation.edits) rest

theorem bookkeepings_run (ownerKind : OwnerKind) (queue : WorkQueue) (earlier later : List Action) :
    ((Index.of ownerKind queue).run earlier).bookkeepings later =
      Bookkeeping.entries ownerKind (earlier.flatMap Action.edits)
        (later.filterMap Action.operation?) := by
  induction later generalizing earlier with
  | nil => rfl
  | cons action later ih =>
      have hedits : (earlier ++ [action]).flatMap Action.edits =
          earlier.flatMap Action.edits ++ action.edits := by
        rw [List.flatMap_append, List.flatMap_singleton]
      rw [Trace.bookkeepings, ← run_append_singleton, bookkeeping_run, ih, hedits]
      cases action with
      | performing operation => rfl
      | receiving | closing =>
          rw [Action.edits, List.append_nil]
          rfl

/-- Two runs of new indexes perform the same operations, while their queues have room for any numbers
of keys, and their receivers take keys and go away at any times between the operations.  Then after
each operation the bookkeeping is the same in both runs: the recorded owners of every key, the size,
the gauge, the counters of updates and of deletions, and the keys that were offered so far, in order.
What differs is which offers are accepted.  In a run the offered keys are the accepted and the refused
ones, the accepted ones in the order of the offers.  The keys in the queue, those that were received
or lost, the counters of offers and the reports of refused keys are those that these leave. -/
theorem bookkeepings_eq_of_run (ownerKind : OwnerKind) (capacity capacity' : Nat)
    (actions actions' : List Action)
    (hoperations : actions.filterMap Action.operation? = actions'.filterMap Action.operation?) :
    let queue : WorkQueue := ⟨some capacity, [], false⟩
    let queue' : WorkQueue := ⟨some capacity', [], false⟩
    let trace := (Index.of ownerKind queue).run actions
    let ledger := queue.ledgerOf trace.history
    (Trace.of (Index.of ownerKind queue)).bookkeepings actions =
        (Trace.of (Index.of ownerKind queue')).bookkeepings actions' ∧
      (ledger.accepted ++ ledger.refused.map Refusal.id).Perm (offeredIn trace.history) ∧
      ledger.accepted.Sublist (offeredIn trace.history) ∧
      Agrees ownerKind ledger trace := by
  intro queue queue' trace ledger
  have hfirst := bookkeepings_run ownerKind queue [] actions
  have hsecond := bookkeepings_run ownerKind queue' [] actions'
  rw [hoperations] at hfirst
  exact ⟨hfirst.trans hsecond.symm, WorkQueue.perm_ledgerOf queue trace.history,
    (WorkQueue.balanced_ledgerOf capacity trace.history).sublist,
    agrees_run ownerKind queue actions⟩

/-- A queue with room for one key is full in the middle of an update, and its receiver goes away before
a deletion.  Another queue takes all keys. -/
theorem bookkeepings_eq_of_run_of_full_queue :
    let group (name : String) (owners : List Owner) : Subordinate :=
      ⟨"ConsumerGroup", some "ns", some name, none, owners⟩
    let update : Action := .performing
      (.applying (group "first" [⟨"KafkaSource", "a"⟩, ⟨"KafkaSource", "b"⟩]))
    let listing : Action := .performing
      (.resetting "ConsumerGroup" [group "first" [⟨"KafkaSource", "b"⟩]] [⟨"ns", "other"⟩])
    let deletion : Action := .performing (.deleting "ConsumerGroup" ⟨"ns", "first"⟩)
    let narrow := Index.of (.ofKind "KafkaSource") ⟨some 1, [], false⟩
    let wide := Index.of (.ofKind "KafkaSource") ⟨some 9, [], false⟩
    let actions := [update, .receiving, listing, .closing, deletion]
    let trace := narrow.run actions
    (Trace.of narrow).bookkeepings actions =
        (Trace.of wide).bookkeepings [update, listing, deletion] ∧
      trace.index.metrics.enqueued ≠
        (wide.run [update, listing, deletion]).index.metrics.enqueued ∧
      trace.events.filter LogEvent.namesOwner =
        [dropped (.full ⟨"ns", "b"⟩), dropped (.full ⟨"ns", "a"⟩),
          dropped (.closed ⟨"ns", "b"⟩)] := by
  intro group update listing deletion narrow wide actions trace
  obtain ⟨hbookkeepings, -, -, hagrees⟩ := bookkeepings_eq_of_run (.ofKind "KafkaSource") 1 9 actions
    [update, listing, deletion] rfl
  refine ⟨hbookkeepings, by decide +kernel, hagrees.reported.trans ?_⟩
  decide +kernel

end StatusRouter.Index
