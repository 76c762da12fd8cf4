import Mathlib.Logic.Function.Iterate
import StatusRouter.Proofs.Requeue.Batch
import StatusRouter.Requeue.Consumer

/-!
# A consumer that is left alone

While nobody puts keys in the queue, a consumer empties it, gathers all its keys in one batch
(`leads_of_gathering`), looks up each of them (`leads_of_lookingUp`), and waits for a key again
(`leads_of_waiting`).  If there is nobody left who could send one, it stops (`stops_of_no_sender`).

`Lookup.Reports` says by which event a look-up is reported, without saying how the consumer finds it.
-/

namespace StatusRouter

/-! ## Look-ups -/

namespace Lookup

/-- The event by which a look-up is reported, in the span of its key. -/
inductive Reports (id : ResourceId) : Lookup → LogEvent → Prop where
  /-- The first condition of the aggregate tells how ready the source is. -/
  | ready {source : KafkaSource} {status : KafkaSourceStatus} {front back : List Condition}
    {ready : Condition} (hstatus : source.status = some status)
    (hconditions : status.conditions = front ++ ready :: back) (htype : ready.type = .ready)
    (hfront : ∀ c ∈ front, c.type ≠ .ready) :
    Reports id (.found source)
      { level := .info
        message := "Source requires reconciliation"
        fields :=
          [("status", ready.status.text), ("reason", ready.reason), ("message", ready.message)]
        span := [("ns", id.namespace), ("name", id.name)] }
  | unreported {source : KafkaSource}
    (hnone : ∀ status, source.status = some status → ∀ c ∈ status.conditions, c.type ≠ .ready) :
    Reports id (.found source)
      { level := .info
        message := "Source requires reconciliation; readiness not yet reported"
        fields := []
        span := [("ns", id.namespace), ("name", id.name)] }
  | absent :
    Reports id .absent
      { level := .debug
        message := "Source no longer exists"
        fields := []
        span := [("ns", id.namespace), ("name", id.name)] }
  | failed (error : String) :
    Reports id (.failed error)
      { level := .warn
        message := "Failed to fetch source"
        fields := [("error", error)]
        span := [("ns", id.namespace), ("name", id.name)] }

/-- A look-up is reported by one event and no other. -/
theorem Reports.eq {id : ResourceId} {lookup : Lookup} {reported : LogEvent}
    (h : lookup.Reports id reported) : reported = lookup.event.inside (keySpan id) := by
  cases h with
  | @ready source status front back ready hstatus hconditions htype hfront =>
      have hfind : findCondition? .ready status.conditions = some ready :=
        List.find?_eq_some_iff_append.mpr
          ⟨by simpa using htype, front, back, hconditions, by simpa using hfront⟩
      simp only [event, hstatus, Option.bind_some, hfind]
      rfl
  | @unreported source hnone =>
      have hbind : (source.status.bind fun status => findCondition? .ready status.conditions) =
          none :=
        Option.bind_eq_none_iff.mpr fun status hstatus =>
          findCondition?_eq_none.mpr (hnone status hstatus)
      simp only [event, hbind]
      rfl
  | absent => rfl
  | failed error => rfl

theorem reports_event (id : ResourceId) (lookup : Lookup) :
    lookup.Reports id (lookup.event.inside (keySpan id)) := by
  cases lookup with
  | absent => exact .absent
  | failed error => exact .failed error
  | found source =>
      simp only [event]
      split
      · rename_i ready hready
        obtain ⟨status, hstatus, hfind⟩ := Option.bind_eq_some_iff.mp hready
        obtain ⟨-, front, back, hconditions, hskipped⟩ := List.find?_eq_some_iff_append.mp hfind
        exact .ready hstatus hconditions (type_of_findCondition? hfind) (by simpa using hskipped)
      · rename_i hnone
        refine .unreported fun status hstatus => ?_
        rw [hstatus, Option.bind_some] at hnone
        exact findCondition?_eq_none.mp hnone

end Lookup

/-! ## Left alone with a queue -/

namespace Consumer

variable {fetch : ResourceId → Lookup} {sending : Bool} {deeds : List Deed} {queue : WorkQueue}

/-- A consumer and its queue come to a state after some steps. -/
def Leads (fetch : ResourceId → Lookup) (sending : Bool) (before after : Consumer × WorkQueue) :
    Prop :=
  ∃ count, (next fetch sending)^[count] before = after

theorem Leads.trans {a b c : Consumer × WorkQueue} (h : Leads fetch sending a b)
    (h' : Leads fetch sending b c) : Leads fetch sending a c := by
  obtain ⟨count, rfl⟩ := h
  obtain ⟨later, rfl⟩ := h'
  exact ⟨later + count, Function.iterate_add_apply _ later count a⟩

theorem leads_next (before : Consumer × WorkQueue) :
    Leads fetch sending before (next fetch sending before) :=
  ⟨1, rfl⟩

/-- A consumer that gathers a batch takes all keys out of the queue, and each of them is in the batch
after that. -/
theorem leads_of_gathering (batch : List ResourceId) :
    Leads fetch sending (⟨.gathering batch, deeds⟩, queue)
      (⟨.lookingUp (queue.items.foldl (fun set id => ResourceId.insertOnce id set) batch), deeds⟩,
        { queue with items := [] }) := by
  obtain ⟨capacity, items, closed⟩ := queue
  induction items generalizing batch with
  | nil => exact leads_next _
  | cons id items ih => exact (leads_next _).trans (ih (ResourceId.insertOnce id batch))

/-- A consumer looks up all that is left of a batch, whatever comes of it, and then waits for a key. -/
theorem leads_of_lookingUp (rest : List ResourceId) :
    Leads fetch sending (⟨.lookingUp rest, deeds⟩, queue)
      (⟨.waiting, deeds ++ rest.flatMap (observe fetch)⟩, queue) := by
  induction rest generalizing deeds with
  | nil =>
      rw [List.flatMap_nil, List.append_nil]
      exact leads_next _
  | cons id rest ih =>
      rw [List.flatMap_cons, ← List.append_assoc]
      exact (leads_next _).trans ih

/-- A consumer that waits makes one batch of all keys in its queue, looks them up, and waits again. -/
theorem leads_of_waiting :
    Leads fetch sending (⟨.waiting, deeds⟩, queue)
      (⟨.waiting, deeds ++ (ResourceId.toSet queue.items).flatMap (observe fetch)⟩,
        { queue with items := [] }) := by
  obtain ⟨capacity, items, closed⟩ := queue
  cases items with
  | nil => exact ⟨0, by simp [ResourceId.toSet]⟩
  | cons first rest =>
      exact (leads_next _).trans ((leads_of_gathering [first]).trans (leads_of_lookingUp _))

/-- A consumer that did not stop comes to wait for a key while its queue is empty. -/
theorem leads_to_waiting (fetch : ResourceId → Lookup) (sending : Bool) (queue : WorkQueue)
    {consumer : Consumer} (h : consumer.activity ≠ .stopped) :
    ∃ deeds, Leads fetch sending (consumer, queue) (⟨.waiting, deeds⟩, { queue with items := [] }) := by
  obtain ⟨activity, deeds⟩ := consumer
  cases activity with
  | waiting => exact ⟨_, leads_of_waiting⟩
  | gathering batch => exact ⟨_, (leads_of_gathering batch).trans (leads_of_lookingUp _)⟩
  | lookingUp rest => exact ⟨_, (leads_of_lookingUp rest).trans leads_of_waiting⟩
  | stopped => exact absurd rfl h

/-- Any keys wait in the queue, in any order and any number of times, and nobody is left to send one.
The consumer looks up each of them once, in the order of the namespaces, and of the names in one
namespace.  Whatever a look-up leads to, it is reported by one event in the span of its key, and the
next key is looked up: if the source is there, the event has the status, the reason and the message of
its first aggregate condition, or says that there is none yet.  After the last key the queue is empty,
and the consumer reports its end and stops: no later step does anything.

So what it does depends only on which keys were waiting, and is the same with any other queue that has
them in another order or another number of times. -/
theorem stops_of_no_sender (fetch : ResourceId → Lookup) (queue : WorkQueue) :
    ∃ (keys : List ResourceId) (report : ResourceId → LogEvent),
      (∀ id, id ∈ keys ↔ id ∈ queue.items) ∧
      keys.Pairwise (fun a b =>
        a.namespace < b.namespace ∨ a.namespace = b.namespace ∧ a.name < b.name) ∧
      (∀ id, (fetch id).Reports id (report id)) ∧
      ∀ other : WorkQueue, (∀ id, id ∈ other.items ↔ id ∈ queue.items) →
        ∃ count, ∀ later, (next fetch false)^[count + later] (idle, other) =
          (⟨.stopped,
              (keys.flatMap fun id => [.fetching id, .reporting (report id)]) ++
                [.reporting ⟨.debug, "Work queue closed", [], []⟩]⟩,
            { other with items := [] }) := by
  refine ⟨ResourceId.toSet queue.items, fun id => (fetch id).event.inside (keySpan id),
    fun id => ResourceId.mem_toSet, ?_, fun id => (fetch id).reports_event id, ?_⟩
  · exact (ResourceId.inOrder_toSet queue.items).imp ResourceId.place_lt_iff.mp
  · intro other hother
    obtain ⟨count, hcount⟩ : Leads fetch false (idle, other) _ :=
      leads_of_waiting.trans (leads_next _)
    refine ⟨count, fun later => ?_⟩
    rw [Nat.add_comm, Function.iterate_add_apply, hcount, ResourceId.toSet_congr hother]
    exact Function.iterate_fixed rfl later

/-- The source of one key is not there, the cluster fails at another, and the source of the third is not
ready.  In the order of their texts `a-b/first` would come before `a/second`.  When the keys wait in
another order, and another one of them twice, the consumer does the same. -/
theorem stops_of_no_sender_of_broken_source :
    let ready : Condition := ⟨.ready, .unmet, .error, none, "Broken", ""⟩
    let metadata : Metadata :=
      ⟨none, none, none, none, none, none, none, none, none, none, none, none, none, none, none⟩
    let broken : KafkaSource :=
      { metadata
        spec := ⟨[], [], none, none, ⟨none, some "http://sink", none, none⟩⟩
        status := some { KafkaSourceStatus.empty with conditions := [ready] } }
    let fetch (id : ResourceId) : Lookup :=
      if id.name = "first" then .absent
      else if id.name = "second" then .found broken
      else .failed "timed out"
    let queue : WorkQueue := ⟨none, [⟨"a-b", "first"⟩, ⟨"b", "c"⟩, ⟨"a", "second"⟩, ⟨"b", "c"⟩], false⟩
    let other : WorkQueue :=
      ⟨some 5, [⟨"b", "c"⟩, ⟨"a", "second"⟩, ⟨"a-b", "first"⟩, ⟨"a", "second"⟩], false⟩
    let span (ns name : String) := [("ns", ns), ("name", name)]
    (∀ id, id ∈ other.items ↔ id ∈ queue.items) ∧
      ∃ count, (next fetch false)^[count] (idle, other) =
        (⟨.stopped,
            [.fetching ⟨"a", "second"⟩,
              .reporting ⟨.info, "Source requires reconciliation",
                [("status", "False"), ("reason", "Broken"), ("message", "")], span "a" "second"⟩,
              .fetching ⟨"a-b", "first"⟩,
              .reporting ⟨.debug, "Source no longer exists", [], span "a-b" "first"⟩,
              .fetching ⟨"b", "c"⟩,
              .reporting ⟨.warn, "Failed to fetch source", [("error", "timed out")], span "b" "c"⟩,
              .reporting ⟨.debug, "Work queue closed", [], []⟩]⟩,
          ⟨some 5, [], false⟩) := by
  intro ready metadata broken fetch queue other span
  obtain ⟨keys, report, hmem, horder, hreports, hstops⟩ := stops_of_no_sender fetch queue
  have hother : ∀ id, id ∈ other.items ↔ id ∈ queue.items := by
    simp only [other, queue, List.mem_cons, List.not_mem_nil, or_false]
    tauto
  have hkeys : keys = [⟨"a", "second"⟩, ⟨"a-b", "first"⟩, ⟨"b", "c"⟩] :=
    ResourceId.InOrder.eq_of_mem_iff (horder.imp ResourceId.place_lt_iff.mpr)
      (ResourceId.inOrder_toSet queue.items) fun id => (hmem id).trans ResourceId.mem_toSet.symm
  have hreport : ∀ id, report id = (fetch id).event.inside (keySpan id) :=
    fun id => (hreports id).eq
  obtain ⟨count, hcount⟩ := hstops other hother
  refine ⟨hother, count, (hcount 0).trans ?_⟩
  rw [hkeys]
  simp only [List.flatMap_cons, hreport]
  rfl

end Consumer

end StatusRouter
