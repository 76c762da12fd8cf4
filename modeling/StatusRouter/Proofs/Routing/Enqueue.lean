import StatusRouter.Proofs.Routing.Offer

/-!
# Offering the owners of a resource without an index

An owner kind offers the keys of the owners that it selects straight to a queue, and goes on when one
is refused.  Nobody receives in between, so the queue accepts the first ones, as many as fit, and one
warning is given for each of the others.  `deliver_eq` says so for any keys, with the `admitted` ones
and the `refusals` of the queue.  Where the keys of a resource stand in its route is counted: the key
of a selected owner comes after as many keys as selected owners are referred to before it
(`getElem?_route`).
-/

namespace StatusRouter.OwnerKind

variable (ownerKind : OwnerKind)

/-! ## The route of a resource -/

section Route

variable {ownerKind} {resource : Subordinate} {ns : String} {owner : Owner} {position : Nat}

theorem length_route (h : resource.namespace = some ns) :
    (ownerKind.route resource).length = resource.owners.countP ownerKind.selects := by
  rw [route, h, List.length_map, List.countP_eq_length_filter]

theorem getElem?_route (h : resource.namespace = some ns)
    (howner : resource.owners[position]? = some owner) (hselected : ownerKind.selects owner) :
    (ownerKind.route resource)[(resource.owners.take position).countP ownerKind.selects]? =
      some ⟨ns, owner.name⟩ := by
  obtain ⟨hposition, rfl⟩ := List.getElem?_eq_some_iff.mp howner
  -- the selected owners are those before this one, this one, and those behind it
  have hsplit : resource.owners.filter ownerKind.selects =
      (resource.owners.take position).filter ownerKind.selects ++
        resource.owners[position] ::
          (resource.owners.drop (position + 1)).filter ownerKind.selects := by
    rw [← List.filter_cons_of_pos hselected, List.getElem_cons_drop, ← List.filter_append,
      List.take_append_drop]
  rw [route, h, List.getElem?_map, hsplit, List.countP_eq_length_filter,
    List.getElem?_append_right (Nat.le_refl _), Nat.sub_self]
  rfl

theorem isOwnerOf_iff_route_ne_nil (h : resource.namespace = some ns) :
    ownerKind.isOwnerOf resource ↔ ownerKind.route resource ≠ [] := by
  simp [route, h, isOwnerOf]

end Route

/-! ## What is delivered -/

/-- Keys are delivered one after another to a queue, which accepts the first ones. -/
theorem deliver_eq (ids : List ResourceId) (queue : WorkQueue) :
    ownerKind.deliver ids queue =
      ⟨(queue.admitted ids).length, queue.extended ids,
        (queue.refusals ids).map ownerKind.enqueueFailed⟩ := by
  induction ids generalizing queue with
  | nil => simp [deliver]
  | cons id rest ih =>
      cases h : queue.offer id with
      | ok after =>
          simp [deliver, h, ih, WorkQueue.admitted_cons_of_ok h, WorkQueue.refusals_cons_of_ok h,
            WorkQueue.extended_cons_of_ok h]
      | error refusal =>
          simp [deliver, h, ih, WorkQueue.admitted_of_error h, WorkQueue.refusals_cons_of_error h,
            WorkQueue.extended_of_error h]

/-- All refusals are reported alike, since they have the same reason. -/
theorem map_enqueueFailed_refusals (ids : List ResourceId) (queue : WorkQueue) :
    (queue.refusals ids).map ownerKind.enqueueFailed =
      List.replicate (ids.length - (queue.admitted ids).length)
        (.plain .warn "Failed to enqueue owner"
          [("kind", ownerKind.text),
            ("error", if queue.closed then "work queue is closed" else "work queue is full")]) := by
  rw [WorkQueue.refusals, List.map_map, ← List.length_drop, List.eq_replicate_iff]
  refine ⟨List.length_map _, fun event hevent => ?_⟩
  obtain ⟨id, -, rfl⟩ := List.mem_map.mp hevent
  cases queue.closed <;> rfl

/-- A resource without a namespace has no route.  The route of another one has one key for each owner
of the kind, in the order of the references, with the namespace of the resource and the name in the
reference, and the same key again if the owner is referred to again; so it is not empty just if the
kind owns the resource.

When the owners of a resource are enqueued, a queue with a capacity accepts the first keys of the
route, as many as there is room for, and one without a capacity accepts all, while a closed queue
accepts none.  The accepted keys are put behind those that are in the queue, in the order of the
route, and nothing else of the queue changes.  Their number is what is returned, and for each of the
other keys a warning is reported.  A queue that refuses a key gives back this key. -/
theorem enqueue_prefix_of_route (resource : Subordinate) (queue : WorkQueue) :
    let route := ownerKind.route resource
    let delivery := ownerKind.enqueue resource queue
    (resource.namespace = none → route = []) ∧
    (∀ ns, resource.namespace = some ns →
      route.length = resource.owners.countP ownerKind.selects ∧
      (∀ position owner, resource.owners[position]? = some owner → ownerKind.selects owner →
        route[(resource.owners.take position).countP ownerKind.selects]? =
          some ⟨ns, owner.name⟩) ∧
      (ownerKind.isOwnerOf resource ↔ route ≠ [])) ∧
    delivery.accepted =
      (if queue.closed then 0
      else match queue.capacity with
        | none => route.length
        | some capacity => min route.length (capacity - queue.items.length)) ∧
    delivery.queue = { queue with items := queue.items ++ route.take delivery.accepted } ∧
    delivery.events =
      List.replicate (route.length - delivery.accepted)
        (.plain .warn "Failed to enqueue owner"
          [("kind", ownerKind.text),
            ("error", if queue.closed then "work queue is closed" else "work queue is full")]) ∧
    ∀ (offered : WorkQueue) id refusal, offered.offer id = .error refusal → refusal.id = id := by
  intro route delivery
  have hdelivery : delivery =
      ⟨(queue.admitted route).length, queue.extended route,
        (queue.refusals route).map ownerKind.enqueueFailed⟩ :=
    ownerKind.deliver_eq route queue
  rw [hdelivery]
  refine ⟨fun h => ?_, fun ns h => ⟨length_route h, fun position owner => getElem?_route h,
    isOwnerOf_iff_route_ne_nil h⟩, queue.length_admitted route, ?_,
    ownerKind.map_enqueueFailed_refusals route queue,
    fun offered id refusal => WorkQueue.id_of_offer_eq_error⟩
  · simp only [route, OwnerKind.route, h]
  · rw [← queue.admitted_eq_take route]
    rfl

/-- A group refers to one source twice, in different cases, to another source, and to a deployment in
between.  A queue that has room for two keys accepts the first source twice, and a warning is given
for the other one.  A closed queue gives three warnings, and a group without a namespace gives none. -/
theorem enqueue_prefix_of_route_of_repeated_owner :
    let group (ns : Option String) : Subordinate :=
      ⟨"ConsumerGroup", ns, some "group", none,
        [⟨"KafkaSource", "a"⟩, ⟨"Deployment", "b"⟩, ⟨"KAFKASOURCE", "a"⟩, ⟨"kafkasource", "c"⟩]⟩
    let queue : WorkQueue := ⟨some 3, [⟨"ns", "c"⟩], false⟩
    let closed : WorkQueue := ⟨none, [], true⟩
    let delivery := (ofKind "KafkaSource").enqueue (group (some "ns")) queue
    (ofKind "KafkaSource").route (group none) = [] ∧
    ((ofKind "KafkaSource").route (group (some "ns")))[2]? = some ⟨"ns", "c"⟩ ∧
    delivery.accepted = 2 ∧
    delivery.queue = ⟨some 3, [⟨"ns", "c"⟩, ⟨"ns", "a"⟩, ⟨"ns", "a"⟩], false⟩ ∧
    delivery.events =
      [.plain .warn "Failed to enqueue owner"
        [("kind", "kafkasource"), ("error", "work queue is full")]] ∧
    ((ofKind "KafkaSource").enqueue (group (some "ns")) closed).events.length = 3 ∧
    delivery.queue.offer ⟨"ns", "c"⟩ = .error (.full ⟨"ns", "c"⟩) ∧
    Refusal.id (.full ⟨"ns", "c"⟩) = ⟨"ns", "c"⟩ := by
  intro group queue closed delivery
  obtain ⟨-, hroute, haccepted, hqueue, hevents, hrefused⟩ :=
    enqueue_prefix_of_route (ofKind "KafkaSource") (group (some "ns")) queue
  obtain ⟨hnone, -⟩ := enqueue_prefix_of_route (ofKind "KafkaSource") (group none) queue
  obtain ⟨-, -, -, -, hclosed, -⟩ :=
    enqueue_prefix_of_route (ofKind "KafkaSource") (group (some "ns")) closed
  obtain ⟨-, hposition, -⟩ := hroute "ns" rfl
  have hafter : delivery.queue = ⟨some 3, [⟨"ns", "c"⟩, ⟨"ns", "a"⟩, ⟨"ns", "a"⟩], false⟩ :=
    hqueue.trans (by decide +kernel)
  have hfull : delivery.queue.offer ⟨"ns", "c"⟩ = .error (.full ⟨"ns", "c"⟩) := by
    rw [hafter]
    rfl
  refine ⟨hnone rfl, hposition 3 ⟨"kafkasource", "c"⟩ rfl (by decide +kernel),
    haccepted.trans (by decide +kernel), hafter, hevents.trans (by decide +kernel), ?_, hfull,
    hrefused _ _ _ hfull⟩
  rw [hclosed]
  decide +kernel

end StatusRouter.OwnerKind
