import StatusRouter.LogEvent
import StatusRouter.Resource.KafkaSource
import StatusRouter.Routing.WorkQueue

/-!
# The consumer of the work queue

The consumer waits for a key and gathers the keys that wait behind it as one batch, so that many
changes of subordinates lead to one look at their owner.  It looks up the sources of the batch in the
order of their keys, reports what it found, and goes on whatever that was.  Keys that arrive meanwhile
belong to the next batch.  It stops when no key waits and nobody is left to send one.

A consumer takes one step at a time (`Consumer.next`), and between its steps others may put keys in the
queue.  What the cluster answers is not known here: it is given to the step.
-/

namespace StatusRouter

/-- What the look-up of a source leads to. -/
inductive Lookup where
  | found (source : KafkaSource)
  | absent
  /-- There was no answer, or one that is none; the error is given by its text. -/
  | failed (error : String)

/-- The event that reports a look-up. -/
def Lookup.event : Lookup → LogEvent
  | absent => .plain .debug "Source no longer exists" []
  | failed error => .plain .warn "Failed to fetch source" [("error", error)]
  | found source =>
    match source.status.bind fun status => findCondition? .ready status.conditions with
    | some ready =>
      .plain .info "Source requires reconciliation"
        [("status", ready.status.text), ("reason", ready.reason), ("message", ready.message)]
    | none => .plain .info "Source requires reconciliation; readiness not yet reported" []

/-- The fields of the span in which a key is worked on. -/
def keySpan (id : ResourceId) : List (String × String) :=
  [("ns", id.namespace), ("name", id.name)]

/-- The event that reports the end of the queue. -/
def queueClosed : LogEvent := .plain .debug "Work queue closed" []

/-- What others see of a consumer. -/
inductive Deed where
  /-- The cluster is asked for the source of a key. -/
  | fetching (id : ResourceId)
  | reporting (event : LogEvent)
  deriving DecidableEq

/-- What a consumer is at. -/
inductive Activity where
  /-- It waits for a key. -/
  | waiting
  /-- It gathers the keys of a batch. -/
  | gathering (batch : List ResourceId)
  /-- It looks up the keys that are left of a batch. -/
  | lookingUp (rest : List ResourceId)
  | stopped
  deriving DecidableEq

/-- A consumer, and what it has done so far. -/
structure Consumer where
  activity : Activity
  deeds : List Deed
  deriving DecidableEq

namespace Consumer

/-- A consumer that waits for its first key. -/
def idle : Consumer := ⟨.waiting, []⟩

/-- What is done to look up the source of a key. -/
def observe (fetch : ResourceId → Lookup) (id : ResourceId) : List Deed :=
  [.fetching id, .reporting ((fetch id).event.inside (keySpan id))]

/-- The consumer and its queue after one more step, in which the cluster answers a request for a key
with `fetch`.  Whether there is still a sender that may put keys in the queue is told by `sending`. -/
def next (fetch : ResourceId → Lookup) (sending : Bool) :
    Consumer × WorkQueue → Consumer × WorkQueue
  | (⟨.waiting, deeds⟩, queue) =>
    match queue.receive with
    | (some id, queue) => (⟨.gathering [id], deeds⟩, queue)
    | (none, queue) =>
      -- no key is a reason to stop only if there will be none
      if sending then (⟨.waiting, deeds⟩, queue)
      else (⟨.stopped, deeds ++ [.reporting queueClosed]⟩, queue)
  | (⟨.gathering batch, deeds⟩, queue) =>
    match queue.receive with
    | (some id, queue) => (⟨.gathering (ResourceId.insertOnce id batch), deeds⟩, queue)
    | (none, queue) => (⟨.lookingUp batch, deeds⟩, queue)
  | (⟨.lookingUp (id :: rest), deeds⟩, queue) =>
    (⟨.lookingUp rest, deeds ++ observe fetch id⟩, queue)
  | (⟨.lookingUp [], deeds⟩, queue) => (⟨.waiting, deeds⟩, queue)
  | (⟨.stopped, deeds⟩, queue) => (⟨.stopped, deeds⟩, queue)

end Consumer

end StatusRouter
