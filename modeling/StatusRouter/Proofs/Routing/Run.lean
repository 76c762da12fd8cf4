import StatusRouter.Proofs.Routing.Edit
import StatusRouter.Proofs.Routing.Ledger

/-!
# Runs of an index

An index performs operations, and between any two of them the receiver of its queue takes a key or
goes away.  A trace is what such a run leaves: the index, all that was reported, the keys that were
received or lost, and the history of the queue, key by key.
-/

namespace StatusRouter.Index

/-- What happens to an index and its queue. -/
inductive Action where
  | performing (operation : Operation)
  | receiving
  | closing
  deriving DecidableEq

/-- The edits that an action makes. -/
def Action.edits : Action → List Edit
  | .performing operation => operation.edits
  | .receiving | .closing => []

/-- What a run has left so far. -/
structure Trace where
  index : Index
  events : List LogEvent
  received : List ResourceId
  /-- The keys that were in the queue when the receiver went away. -/
  lost : List ResourceId
  /-- What happened to the queue. -/
  history : List WorkQueue.Action

namespace Trace

/-- A run that has not begun. -/
def of (index : Index) : Trace := ⟨index, [], [], [], []⟩

/-- The trace after one more action. -/
def next (trace : Trace) : Action → Trace
  | .performing operation =>
    let step := trace.index.perform operation
    { trace with
      index := step.index
      events := trace.events ++ step.events
      history := trace.history ++ (operation.offered trace.index).map .offering }
  | .receiving =>
    let (id?, queue) := trace.index.queue.receive
    { trace with
      index := { trace.index with queue }
      received := trace.received ++ id?.toList
      history := trace.history ++ [.receiving] }
  | .closing =>
    { trace with
      index := { trace.index with queue := trace.index.queue.close }
      lost := trace.lost ++ trace.index.queue.items
      history := trace.history ++ [.closing] }

end Trace

/-- The trace of a run. -/
def run (index : Index) (actions : List Action) : Trace :=
  actions.foldl Trace.next (.of index)

theorem run_append_singleton {index : Index} (actions : List Action) (action : Action) :
    index.run (actions ++ [action]) = (index.run actions).next action := by
  rw [run, List.foldl_append]
  rfl

end StatusRouter.Index
