import StatusRouter.Proofs.Routing.Enqueue
import StatusRouter.Proofs.Routing.Operation

/-!
# The index and the direct path

The owners of a resource reach a work queue on two paths: an owner kind enqueues them directly, and
an index enqueues them when it takes in an update of the resource.  The index knows which owners the
resource had before, and offers those that the update takes away as well.

Both paths offer keys one after another and go on when one is refused, so what is offered on the
second path can be split at any place: `deliver_append` says that keys are delivered as the first
ones are and then the others, to the queue that the first ones left.  An update is therefore the
direct path followed by the delivery of the lost owners (`apply_delivers_route_then_lost`), and
since a queue that refuses a key refuses all later ones (`deliver_of_accepted_lt`), a lost owner
never takes the place of a current one.
-/

namespace StatusRouter

/-- A queue that admits only some of the keys that are offered is full or closed afterwards. -/
theorem WorkQueue.admitted_extended_of_lt {queue : WorkQueue} {ids : List ResourceId}
    (h : (queue.admitted ids).length < ids.length) (later : List ResourceId) :
    (queue.extended ids).admitted later = [] := by
  have hlength : (queue.extended ids).items.length =
      queue.items.length + (queue.admitted ids).length := List.length_append
  rw [length_admitted] at h hlength
  rw [admitted, hlength]
  obtain ⟨capacity, items, closed⟩ := queue
  cases closed with
  | true => rfl
  | false =>
      cases capacity with
      | none => exact absurd h (Nat.lt_irrefl _)
      | some capacity =>
          -- the keys that fitted have filled the queue
          have hfull : capacity - (items.length + min ids.length (capacity - items.length)) = 0 := by
            have hroom : min ids.length (capacity - items.length) < ids.length := h
            omega
          exact (congrArg later.take hfull).trans List.take_zero

namespace OwnerKind

variable (ownerKind : OwnerKind)

/-! ## Delivering in two parts -/

theorem deliver_append (ids later : List ResourceId) (queue : WorkQueue) :
    ownerKind.deliver (ids ++ later) queue =
      let first := ownerKind.deliver ids queue
      let second := ownerKind.deliver later first.queue
      ⟨first.accepted + second.accepted, second.queue, first.events ++ second.events⟩ := by
  simp only [deliver_eq, WorkQueue.admitted_append, WorkQueue.extended_append,
    WorkQueue.refusals_append, List.length_append, List.map_append]

theorem accepted_deliver_le (ids : List ResourceId) (queue : WorkQueue) :
    (ownerKind.deliver ids queue).accepted ≤ ids.length := by
  rw [deliver_eq, queue.admitted_eq_take ids]
  exact List.length_take_le' _ _

/-- The accepted keys are the first ones, and stand behind those that were in the queue. -/
theorem items_deliver (ids : List ResourceId) (queue : WorkQueue) :
    (ownerKind.deliver ids queue).queue.items =
      queue.items ++ ids.take (ownerKind.deliver ids queue).accepted := by
  rw [deliver_eq, ← queue.admitted_eq_take ids]
  rfl

/-- A queue that has refused a key accepts none of the keys that follow. -/
theorem deliver_of_accepted_lt {ids : List ResourceId} {queue : WorkQueue}
    (h : (ownerKind.deliver ids queue).accepted < ids.length) (later : List ResourceId) :
    let first := ownerKind.deliver ids queue
    (ownerKind.deliver later first.queue).accepted = 0 ∧
      (ownerKind.deliver later first.queue).queue = first.queue := by
  intro first
  have hnone : first.queue.admitted later = [] := by
    simp only [first, deliver_eq] at h ⊢
    exact WorkQueue.admitted_extended_of_lt h later
  simp only [deliver_eq ownerKind later, hnone, WorkQueue.extended, List.append_nil,
    List.length_nil, and_self]

end OwnerKind

namespace Index

/-- An update of a resource with a key delivers its route and then the recorded owners that are not
in the route, and counts what was accepted and what was not. -/
theorem delivered_of_apply (index : Index) {resource : Subordinate} {ns name : String}
    (hnamespace : resource.namespace = some ns) (hname : resource.name = some name) :
    let offered := index.offers ⟨ns, name⟩ (index.ownerKind.route resource)
    let delivery := index.ownerKind.deliver offered index.queue
    let step := index.apply resource
    step.fault = none ∧ step.index.queue = delivery.queue ∧
      step.index.metrics.enqueued =
        index.metrics.enqueued.raiseBy index.ownerKind.text delivery.accepted ∧
      step.index.metrics.dropped =
        index.metrics.dropped.raiseBy index.ownerKind.text
          (offered.length - delivery.accepted) := by
  intro offered delivery step
  have hkey : resource.key = .ok ⟨ns, name⟩ :=
    Subordinate.key_eq_ok_iff.mpr ⟨hnamespace, hname⟩
  have hrevises : step.Revises index [⟨⟨ns, name⟩, index.ownerKind.route resource⟩] :=
    revises_apply hkey
  have hoffered : index.ownership.offersAll [⟨⟨ns, name⟩, index.ownerKind.route resource⟩] =
      offered := Ownership.offersAll_singleton
  have hdelivery : delivery =
      ⟨(index.queue.admitted offered).length, index.queue.extended offered,
        (index.queue.refusals offered).map index.ownerKind.enqueueFailed⟩ :=
    index.ownerKind.deliver_eq offered index.queue
  rw [hdelivery]
  refine ⟨hrevises.fault, ?_, ?_, ?_⟩
  · rw [hrevises.queue, hoffered]
  · rw [hrevises.enqueued, hoffered]
  · rw [hrevises.dropped, hoffered, WorkQueue.refusals, List.length_map, List.length_drop]

/-- When an index takes in an update of a resource that has a namespace and a name, it is not broken
off, and the queue is left as if the owners of the resource were enqueued directly and the lost owners
offered after that.  The lost owners are the recorded owners of the resource that are not in its new
route, in the order of the record.  The keys that are accepted on both occasions are counted as
enqueued, the others as dropped, and no counter of another kind changes.

So a resource without a record has the same effect on both paths.  The keys that are accepted are
the first ones of the route and the lost owners behind it, and if any key of the route is refused,
no lost owner is accepted. -/
theorem apply_delivers_route_then_lost (index : Index) (resource : Subordinate) {ns name : String}
    (hnamespace : resource.namespace = some ns) (hname : resource.name = some name) :
    let ownerKind := index.ownerKind
    let route := ownerKind.route resource
    let lost := (index.owners ⟨ns, name⟩).filter fun owner => owner ∉ route
    let direct := ownerKind.enqueue resource index.queue
    let behind := ownerKind.deliver lost direct.queue
    let after := (index.apply resource).index
    (index.apply resource).fault = none ∧ after.queue = behind.queue ∧
    (∀ label, after.metrics.enqueued.count label =
      index.metrics.enqueued.count label +
        if label = ownerKind.text then direct.accepted + behind.accepted else 0) ∧
    (∀ label, after.metrics.dropped.count label =
      index.metrics.dropped.count label +
        if label = ownerKind.text then
          (route.length - direct.accepted) + (lost.length - behind.accepted)
        else 0) ∧
    direct.accepted ≤ route.length ∧ behind.accepted ≤ lost.length ∧
    (index.owners ⟨ns, name⟩ = [] → after.queue = direct.queue) ∧
    after.queue.items =
      index.queue.items ++ (route ++ lost).take (direct.accepted + behind.accepted) ∧
    (direct.accepted < route.length → behind.accepted = 0 ∧ after.queue = direct.queue) := by
  intro ownerKind route lost direct behind after
  obtain ⟨hfault, hqueue, henqueued, hdropped⟩ := index.delivered_of_apply hnamespace hname
  -- what is offered on the path of the index is the route with the lost owners behind it
  have hsplit : ownerKind.deliver (index.offers ⟨ns, name⟩ route) index.queue =
      ⟨direct.accepted + behind.accepted, behind.queue, direct.events ++ behind.events⟩ :=
    ownerKind.deliver_append route lost index.queue
  have hlength : (index.offers ⟨ns, name⟩ route).length = route.length + lost.length :=
    List.length_append
  have hitems := ownerKind.items_deliver (index.offers ⟨ns, name⟩ route) index.queue
  rw [hsplit] at hqueue henqueued hdropped hitems
  have hdirect : direct.accepted ≤ route.length := ownerKind.accepted_deliver_le route index.queue
  have hbehind : behind.accepted ≤ lost.length := ownerKind.accepted_deliver_le lost direct.queue
  have hrefusals : route.length + lost.length - (direct.accepted + behind.accepted) =
      (route.length - direct.accepted) + (lost.length - behind.accepted) := by omega
  rw [hlength, hrefusals] at hdropped
  refine ⟨hfault, hqueue, fun label => ?_, fun label => ?_, hdirect, hbehind, fun hnone => ?_, ?_,
    fun hrefused => ?_⟩
  · rw [henqueued, CounterFamily.count_raiseBy]
  · rw [hdropped, CounterFamily.count_raiseBy]
  · have hlost : lost = [] := by simp only [lost, hnone, List.filter_nil]
    rw [hqueue]
    simp only [behind, hlost]
    rfl
  · rw [hqueue, hitems]
    rfl
  · obtain ⟨haccepted, hsame⟩ := ownerKind.deliver_of_accepted_lt hrefused lost
    exact ⟨haccepted, hqueue.trans hsame⟩

/-- A group was seen with the sources `a` and `b`, and is updated to refer to `c`, to `b` and to `c`
again, while the queue has room for two keys.  Directly, `c` and `b` are accepted and the second `c`
is refused.  The index leaves the same queue: of the lost source `a` nothing is seen but that it is
counted as dropped, together with the second `c`. -/
theorem apply_delivers_route_then_lost_of_filling_queue :
    let now : Subordinate :=
      ⟨"ConsumerGroup", some "ns", some "group", none,
        [⟨"KafkaSource", "c"⟩, ⟨"kafkasource", "b"⟩, ⟨"KafkaSource", "c"⟩]⟩
    let index : Index :=
      ⟨.ofKind "KafkaSource", ⟨some 3, [⟨"ns", "z"⟩], false⟩,
        Ownership.empty.set ⟨"ns", "group"⟩ [⟨"ns", "a"⟩, ⟨"ns", "b"⟩], .empty⟩
    let direct := index.ownerKind.enqueue now index.queue
    let after := (index.apply now).index
    now.namespace = some "ns" ∧ now.name = some "group" ∧
    (index.owners ⟨"ns", "group"⟩).filter (· ∉ index.ownerKind.route now) = [⟨"ns", "a"⟩] ∧
    direct.accepted = 2 ∧ after.queue = direct.queue ∧
    after.queue.items = [⟨"ns", "z"⟩, ⟨"ns", "c"⟩, ⟨"ns", "b"⟩] ∧
    after.metrics.enqueued.count "kafkasource" = 2 ∧
    after.metrics.dropped.count "kafkasource" = 2 := by
  intro now index direct after
  obtain ⟨-, -, henqueued, hdropped, -, -, -, hitems, hrefused⟩ :=
    apply_delivers_route_then_lost index now (rfl : now.namespace = some "ns")
      (rfl : now.name = some "group")
  refine ⟨rfl, rfl, by decide +kernel, by decide +kernel,
    (hrefused (by decide +kernel)).2, hitems.trans (by decide +kernel), ?_, ?_⟩
  · rw [henqueued]
    decide +kernel
  · rw [hdropped]
    decide +kernel

end Index

end StatusRouter
