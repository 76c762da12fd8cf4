import StatusRouter.Proofs.Routing.Run

/-!
# The index and the books of its queue

The counters of an index and its reports are written as the keys are offered, and its queue is filled
and emptied in between.  After every run they agree with the ledger of the queue over what happened
to it (`Agrees.next`).  With a capacity the books balance, so the counters add up to the keys that were
offered, and no key that was accepted is out of its place (`accounting_of_run`).
-/

namespace StatusRouter.Index

open WorkQueue (Ledger offeredIn)

/-- What an index shows, and what it reported, agrees with the ledger of its queue. -/
structure Agrees (ownerKind : OwnerKind) (ledger : Ledger) (trace : Trace) : Prop where
  kind : trace.index.ownerKind = ownerKind
  queue : trace.index.queue = ledger.queue
  received : trace.received = ledger.received
  lost : trace.lost = ledger.lost
  enqueued : trace.index.metrics.enqueued =
    CounterFamily.empty.raiseBy ownerKind.text ledger.accepted.length
  dropped : trace.index.metrics.dropped =
    CounterFamily.empty.raiseBy ownerKind.text ledger.refused.length
  reported : trace.events.filter LogEvent.namesOwner = ledger.refused.map Index.dropped
  /-- All else that was reported is that resources were ignored. -/
  unnamed : ∀ event ∈ trace.events, event.namesOwner = false →
    ∃ resource, event = Index.ignoring resource

/-- Each action enters in the books what it offers, receives or loses. -/
theorem Agrees.next {ownerKind : OwnerKind} {queue : WorkQueue} {trace : Trace}
    (h : Agrees ownerKind (queue.ledgerOf trace.history) trace) (action : Action) :
    Agrees ownerKind (queue.ledgerOf (trace.next action).history) (trace.next action) := by
  cases action with
  | performing operation =>
      -- the ledger and the index take the offered keys to the same queue
      have hedited := trace.index.edited_perform operation
      rw [Trace.next, WorkQueue.ledgerOf_append, WorkQueue.foldl_next_offering, ← h.queue]
      exact
        { kind := hedited.ownerKind.trans h.kind
          queue := hedited.queue
          received := h.received
          lost := h.lost
          enqueued := by
            rw [List.length_append, CounterFamily.raiseBy_add, ← h.enqueued, ← h.kind]
            exact hedited.enqueued
          dropped := by
            rw [List.length_append, CounterFamily.raiseBy_add, ← h.dropped, ← h.kind]
            exact hedited.dropped
          reported := by
            rw [List.filter_append, h.reported, hedited.reported, List.map_append]
            rfl
          unnamed := fun event hevent =>
            (List.mem_append.mp hevent).elim (h.unnamed event) (hedited.unnamed event) }
  | receiving =>
      rw [Trace.next, WorkQueue.ledgerOf_append_singleton]
      exact
        { kind := h.kind
          queue := congrArg (fun queue => queue.receive.2) h.queue
          received := by rw [Ledger.next, ← h.received, ← h.queue]
          lost := h.lost
          enqueued := h.enqueued
          dropped := h.dropped
          reported := h.reported
          unnamed := h.unnamed }
  | closing =>
      rw [Trace.next, WorkQueue.ledgerOf_append_singleton]
      exact
        { kind := h.kind
          queue := congrArg WorkQueue.close h.queue
          received := h.received
          lost := by rw [Ledger.next, ← h.lost, ← h.queue]
          enqueued := h.enqueued
          dropped := h.dropped
          reported := h.reported
          unnamed := h.unnamed }

theorem agrees_run (ownerKind : OwnerKind) (queue : WorkQueue) (actions : List Action) :
    Agrees ownerKind (queue.ledgerOf ((Index.of ownerKind queue).run actions).history)
      ((Index.of ownerKind queue).run actions) := by
  induction actions using List.reverseRecOn with
  | nil => exact ⟨rfl, rfl, rfl, rfl, rfl, rfl, rfl, nofun⟩
  | append_singleton actions action ih =>
      rw [run_append_singleton]
      exact ih.next action

/-- What is reported, but for the resources that are ignored, are the refusals. -/
theorem Agrees.filter_events {ownerKind : OwnerKind} {ledger : Ledger} {trace : Trace}
    (h : Agrees ownerKind ledger trace) :
    (trace.events.filter fun event => event.message ≠ "Ignoring resource without a namespace") =
      ledger.refused.map Index.dropped := by
  rw [← h.reported]
  refine List.filter_congr fun event hevent => ?_
  cases hname : event.namesOwner with
  | false =>
      obtain ⟨resource, rfl⟩ := h.unnamed event hevent hname
      rfl
  | true =>
      have hrefusal : event ∈ ledger.refused.map Index.dropped :=
        h.reported ▸ List.mem_filter.mpr ⟨hevent, hname⟩
      obtain ⟨refusal, -, rfl⟩ := List.mem_map.mp hrefusal
      cases refusal <;> rfl

/-- The accounts of a run of a new index whose queue has a capacity.  The keys that the queue accepts
are some of those that it is offered, in order; it refuses a key exactly if its receiver is gone or it
holds as many keys as it may.  The counters of the owner kind are the numbers of accepted and of
refused keys, which add up to the offered ones.  The keys that were received, then those that were
lost with the receiver, then those in the queue are the accepted ones.  The queue is never over its
capacity.  And but for the resources that are ignored, all that is reported are the refusals, by one
event each, in order: a warning for a full queue, or a note for a closed one, with the key that was
refused. -/
theorem accounting_of_run (ownerKind : OwnerKind) (capacity : Nat) (actions : List Action) :
    let queue : WorkQueue := ⟨some capacity, [], false⟩
    let trace := (Index.of ownerKind queue).run actions
    let ledger := queue.ledgerOf trace.history
    trace.index.queue = ledger.queue ∧
    ledger.accepted.Sublist (offeredIn trace.history) ∧
    (∀ earlier id later, trace.history = earlier ++ .offering id :: later →
      let before := queue.ledgerOf earlier
      queue.ledgerOf (earlier ++ [.offering id]) =
        if .closing ∈ earlier then before.refuse (.closed id)
        else if before.queue.items.length = capacity then before.refuse (.full id)
        else before.accept id { before.queue with items := before.queue.items ++ [id] }) ∧
    (∀ label, trace.index.metrics.enqueued.count label =
      if label = ownerKind.text then ledger.accepted.length else 0) ∧
    (∀ label, trace.index.metrics.dropped.count label =
      if label = ownerKind.text then ledger.refused.length else 0) ∧
    ledger.accepted.length + ledger.refused.length = (offeredIn trace.history).length ∧
    trace.received ++ (trace.lost ++ trace.index.queue.items) = ledger.accepted ∧
    trace.index.queue.items.length ≤ capacity ∧
    (trace.events.filter fun event => event.message ≠ "Ignoring resource without a namespace") =
      ledger.refused.map fun refusal =>
        match refusal with
        | .full id =>
          { level := .warn
            message := "Work queue full; dropping owner"
            fields := [("owner", id.namespace ++ "/" ++ id.name)]
            span := [] }
        | .closed id =>
          { level := .debug
            message := "Work queue closed; dropping owner"
            fields := [("owner", id.namespace ++ "/" ++ id.name)]
            span := [] } := by
  intro queue trace ledger
  have hagrees : Agrees ownerKind ledger trace := agrees_run ownerKind queue actions
  have hbalanced : WorkQueue.Balanced capacity trace.history ledger :=
    WorkQueue.balanced_ledgerOf capacity trace.history
  refine ⟨hagrees.queue, hbalanced.sublist, ?_, ?_, ?_, hbalanced.length_add, ?_, ?_, ?_⟩
  · intro earlier id later _
    rw [WorkQueue.ledgerOf_append_singleton]
    exact (WorkQueue.balanced_ledgerOf capacity earlier).next_offering id
  · intro label
    rw [hagrees.enqueued, CounterFamily.count_raiseBy, CounterFamily.count_empty, Nat.zero_add]
  · intro label
    rw [hagrees.dropped, CounterFamily.count_raiseBy, CounterFamily.count_empty, Nat.zero_add]
  · rw [hagrees.received, hagrees.lost, hagrees.queue, hbalanced.conserved]
  · rw [hagrees.queue]
    exact hbalanced.length_le
  · refine hagrees.filter_events.trans (List.map_congr_left fun refusal _ => ?_)
    cases refusal <;> rfl

/-- A queue with room for one key is offered two, the first of which is received; another key is lost
with the receiver, and two more are refused after that.  A group without a namespace is ignored. -/
theorem accounting_of_run_of_closing :
    let group (name : String) (owners : List Owner) : Subordinate :=
      ⟨"ConsumerGroup", some "ns", some name, none, owners⟩
    let queue : WorkQueue := ⟨some 1, [], false⟩
    let actions : List Action :=
      [.performing (.applying (group "first" [⟨"KafkaSource", "a"⟩, ⟨"KafkaSource", "b"⟩])),
        .receiving, .performing (.applying (group "second" [⟨"KafkaSource", "c"⟩])),
        .performing (.applying ⟨"ConsumerGroup", none, some "third", none, []⟩), .closing,
        .performing (.deleting "ConsumerGroup" ⟨"ns", "first"⟩)]
    let trace := (Index.of (.ofKind "KafkaSource") queue).run actions
    (queue.ledgerOf [.offering ⟨"ns", "a"⟩, .offering ⟨"ns", "b"⟩]).refused =
        [.full ⟨"ns", "b"⟩] ∧
      trace.received ++ (trace.lost ++ trace.index.queue.items) = [⟨"ns", "a"⟩, ⟨"ns", "c"⟩] ∧
      trace.index.metrics.enqueued.count "kafkasource" = 2 ∧
      trace.index.metrics.dropped.count "kafkasource" = 3 ∧
      (trace.events.filter fun event => event.message ≠ "Ignoring resource without a namespace") =
        [⟨.warn, "Work queue full; dropping owner", [("owner", "ns/b")], []⟩,
          ⟨.debug, "Work queue closed; dropping owner", [("owner", "ns/a")], []⟩,
          ⟨.debug, "Work queue closed; dropping owner", [("owner", "ns/b")], []⟩] := by
  intro group queue actions trace
  obtain ⟨-, -, hoffering, henqueued, hdropped, -, hconserved, -, hreported⟩ :=
    accounting_of_run (.ofKind "KafkaSource") 1 actions
  have haccepted : (queue.ledgerOf trace.history).accepted = [⟨"ns", "a"⟩, ⟨"ns", "c"⟩] := by
    decide +kernel
  have hrefused : (queue.ledgerOf trace.history).refused =
      [.full ⟨"ns", "b"⟩, .closed ⟨"ns", "a"⟩, .closed ⟨"ns", "b"⟩] := by
    decide +kernel
  refine ⟨?_, ?_, ?_, ?_, ?_⟩
  · have hhistory : trace.history = [.offering ⟨"ns", "a"⟩] ++ .offering ⟨"ns", "b"⟩ ::
        [.receiving, .offering ⟨"ns", "c"⟩, .closing, .offering ⟨"ns", "a"⟩,
          .offering ⟨"ns", "b"⟩] := by
      decide +kernel
    exact congrArg Ledger.refused (hoffering _ _ _ hhistory)
  · rw [hconserved]
    exact haccepted
  · rw [henqueued, haccepted]
    decide +kernel
  · rw [hdropped, hrefused]
    decide +kernel
  · rw [hreported, hrefused]
    decide +kernel

end StatusRouter.Index
