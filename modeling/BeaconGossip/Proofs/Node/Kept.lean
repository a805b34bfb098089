import BeaconGossip.Proofs.Controller.Lifecycle

namespace BeaconGossip

open Node (Act)

def Channel.performed (c : Channel) : Act → Channel
  | .subscribe => c.subscribe
  | .unsubscribe => c.unsubscribe
  | _ => c

namespace SubnetSet

/-- The set after an act, given the node in which it happens. -/
def performed (s : SubnetSet) (node : Node) : Act → SubnetSet
  | .subscribe => s.subscribe
  | .unsubscribe => s.unsubscribe
  | .requestSubnet index => (s.request ⟨index⟩ node.hub.registry).1
  | .releaseSubnet index => (s.release ⟨index⟩ node.hub.registry).1
  | .publishAttestation a =>
    match node.attestations[a]? with
    | some att => (s.offer att node.hub).2.1
    | none => s
  | .gossip a =>
    match node.attestations[a]? with
    | some att => (s.gossip att node.hub).2.1
    | none => s
  | _ => s

theorem Kept.performed {s : SubnetSet} (h : s.Kept) (node : Node) (act : Act) :
    (s.performed node act).Kept := by
  cases act with
  | subscribe => exact h.subscribe
  | unsubscribe => exact h.unsubscribe
  | requestSubnet index => exact h.request ..
  | releaseSubnet index => exact h.release ..
  | publishAttestation a =>
    simp only [SubnetSet.performed]
    cases node.attestations[a]? with
    | none => exact h
    | some att => exact h.offer att node.hub
  | gossip a =>
    simp only [SubnetSet.performed]
    cases node.attestations[a]? with
    | none => exact h
    | some att => exact h.gossip att node.hub
  | _ => exact h

end SubnetSet

theorem Controller.Tracks.performed {c : Controller} {settings : Settings} {mode : Mode}
    {requested : SubnetId → Prop} (h : c.Tracks settings mode requested) (node : Node) (act : Act) :
    ∃ mode' requested', (c.performed node act).Tracks settings mode' requested' := by
  cases act with
  | start root head =>
    simp only [Controller.performed]
    cases hs : c.start root head node.schedule node.hub.registry with
    | error e => exact ⟨mode, requested, h⟩
    | ok p => exact ⟨_, _, h.start hs⟩
  | stop => exact ⟨_, _, h.stop⟩
  | stopOptimistic => exact ⟨_, _, h.stopOptimistic⟩
  | requestSubnet index =>
    simp only [Controller.performed]
    cases hs : c.requestSubnet index node.hub.registry with
    | error e => exact ⟨mode, requested, h⟩
    | ok p => exact ⟨_, _, (h.requestSubnet hs).2⟩
  | releaseSubnet index =>
    simp only [Controller.performed]
    cases hs : c.releaseSubnet index node.hub.registry with
    | error e => exact ⟨mode, requested, h⟩
    | ok p => exact ⟨_, _, (h.releaseSubnet hs).2⟩
  | publishAttestation a =>
    simp only [Controller.performed]
    cases node.attestations[a]? with
    | none => exact ⟨mode, requested, h⟩
    | some att => exact ⟨mode, requested, h.publishAttestation att node.hub⟩
  | _ => exact ⟨mode, requested, h⟩

namespace GossipObject

/-- The object after an act, given the node in which it happens. -/
def performed (o : GossipObject) (node : Node) (act : Act) : GossipObject :=
  match o with
  | controller c => controller (c.performed node act)
  | manager m => manager ⟨m.channel.performed act⟩
  | subnets s => subnets (s.performed node act)
  | channel c => channel (c.performed act)

def Kept : GossipObject → Prop
  | controller c => ∃ mode requested, c.Tracks c.settings mode requested
  | subnets s => s.Kept
  | _ => True

theorem Kept.performed {o : GossipObject} (h : o.Kept) (node : Node) (act : Act) :
    (o.performed node act).Kept := by
  cases o with
  | controller c =>
    obtain ⟨mode, requested, h⟩ := h
    obtain ⟨mode', requested', h'⟩ := h.performed node act
    exact ⟨mode', requested', h'.settings_eq.symm ▸ h'⟩
  | subnets s => exact SubnetSet.Kept.performed h node act
  | _ => trivial

theorem Kept.ordered {o : GossipObject} (h : o.Kept) : o.Ordered := by
  cases o with
  | controller c =>
    obtain ⟨mode, requested, h⟩ := h
    exact fun m hm => (h.started m hm).2.kept.ordered
  | subnets s => exact SubnetSet.Kept.ordered h
  | _ => trivial

/-- No two channels of an object have the same lane. -/
theorem Kept.channel?_of_mem {o : GossipObject} (h : o.Kept) {lane : Lane} {c : Channel}
    (hm : (lane, c) ∈ o.lanes) : o.channel? lane = some c := by
  have subnets {s : SubnetSet} (hs : s.Ordered) (hm : (lane, c) ∈ s.lanes) :
      ∃ id, lane = .subnet id ∧ s.channel? id = some c := by
    obtain ⟨⟨id, d⟩, hd, he⟩ := List.mem_map.1 hm
    rw [Prod.mk.injEq] at he
    obtain ⟨rfl, rfl⟩ := he
    exact ⟨id, rfl, hs.channel?_eq_some.2 hd⟩
  cases o with
  | controller d =>
    obtain ⟨mode, requested, h⟩ := h
    cases hd : d.managers with
    | none =>
      rw [lanes, hd] at hm
      cases hm
    | some m =>
      have tracks := (h.started m hd).2
      rw [lanes, hd] at hm
      rw [channel?_started hd]
      rcases List.mem_append.1 hm with hm | hm
      · obtain ⟨id, rfl, hc⟩ := subnets tracks.kept.ordered hm
        rw [Managers.lookup_subnet, hc]
      · obtain ⟨t, ht, he⟩ := List.mem_map.1 hm
        rw [Prod.mk.injEq] at he
        obtain ⟨rfl, rfl⟩ := he
        rw [Managers.lookup_ofClass, tracks.topic?_of_mem ht, Option.map_some]
  | subnets s =>
    obtain ⟨id, rfl, hc⟩ := subnets (SubnetSet.Kept.ordered h) hm
    rw [channel?, lanes, SubnetSet.lookup_lanes, hc]
  | manager m =>
    rw [lanes, List.mem_singleton, Prod.mk.injEq] at hm
    obtain ⟨rfl, rfl⟩ := hm
    rfl
  | channel d =>
    rw [lanes, List.mem_singleton, Prod.mk.injEq] at hm
    obtain ⟨rfl, rfl⟩ := hm
    rfl

theorem Kept.turned {o : GossipObject} (h : o.Kept) {lane : Lane} {c : Channel}
    (hc : o.channel? lane = some c) (hub : Hub) : (o.onLane lane fun _ => (c.poll hub).1).Kept := by
  have endpoint := Channel.poll_endpoint c hub
  have limit := Channel.poll_limit c hub
  have wanted := (Channel.poll_requests c hub).1
  cases o with
  | controller d =>
    obtain ⟨mode, requested, h⟩ := h
    exact ⟨mode, requested, h.turned hc endpoint limit wanted⟩
  | subnets s =>
    cases lane with
    | subnet id =>
      rw [channel?, lanes, SubnetSet.lookup_lanes] at hc
      exact SubnetSet.Kept.turned h hc endpoint limit wanted
    | _ => exact h
  | manager m => cases lane <;> trivial
  | channel d => cases lane <;> trivial

end GossipObject

namespace Node

variable {node : Node} {i : Nat} {o : GossipObject}

/-- What becomes of the objects and the tasks of a node: an object has a new form, and the tasks
that it has gained come last. -/
inductive Replaces (i : Nat) (o o' : GossipObject) (node node' : Node) : Prop where
  | same (object : o' = o) (objects : node'.objects = node.objects)
    (tasks : node'.tasks = node.tasks)
  | put (objects : node'.objects = node.objects.set i o')
    (tasks : node'.tasks = node.tasks ++ (o.spawned o').map (Address.mk i))

theorem replaces_controller {c : Controller} (ho : node.objects[i]? = some (.controller c))
    (act : Act) :
    Replaces i (.controller c) (.controller (c.performed node act)) node
      (node.perform i act).2 := by
  cases act with
  | start root head =>
    simp only [perform, Node.start, ho, Controller.performed]
    cases c.start root head node.schedule node.hub.registry with
    | error e => exact .same rfl rfl rfl
    | ok p => exact .put rfl rfl
  | stop =>
    simp only [perform, Node.stop, ho]
    exact .put rfl rfl
  | stopOptimistic =>
    simp only [perform, Node.stopOptimistic, ho]
    exact .put rfl rfl
  | requestSubnet index =>
    simp only [perform, Node.requestSubnet, ho, Controller.performed]
    cases c.requestSubnet index node.hub.registry with
    | error e => exact .same rfl rfl rfl
    | ok p => exact .put rfl rfl
  | releaseSubnet index =>
    simp only [perform, Node.releaseSubnet, ho, Controller.performed]
    cases c.releaseSubnet index node.hub.registry with
    | error e => exact .same rfl rfl rfl
    | ok p => exact .put rfl rfl
  | publishAttestation a =>
    simp only [perform, Node.publishAttestation, ho, Controller.performed]
    cases node.attestations[a]? with
    | none => exact .same rfl rfl rfl
    | some att => exact .put rfl rfl
  | subscribe | unsubscribe | publish | publishPayload | gossip =>
    simp only [perform, Node.subscribe, Node.unsubscribe, Node.publish, Node.publishPayload,
      Node.gossip, ho]
    exact .same rfl rfl rfl

theorem replaces_subnets {s : SubnetSet} (ho : node.objects[i]? = some (.subnets s)) (act : Act) :
    Replaces i (.subnets s) (.subnets (s.performed node act)) node (node.perform i act).2 := by
  cases act with
  | subscribe =>
    simp only [perform, Node.subscribe, ho]
    exact .put rfl rfl
  | unsubscribe =>
    simp only [perform, Node.unsubscribe, ho]
    exact .put rfl rfl
  | requestSubnet index =>
    simp only [perform, Node.requestSubnet, ho]
    exact .put rfl rfl
  | releaseSubnet index =>
    simp only [perform, Node.releaseSubnet, ho]
    exact .put rfl rfl
  | publishAttestation a =>
    simp only [perform, Node.publishAttestation, ho, SubnetSet.performed]
    cases node.attestations[a]? with
    | none => exact .same rfl rfl rfl
    | some att => exact .put rfl rfl
  | gossip a =>
    simp only [perform, Node.gossip, ho, SubnetSet.performed]
    cases node.attestations[a]? with
    | none => exact .same rfl rfl rfl
    | some att => exact .put rfl rfl
  | start | stop | stopOptimistic | publish | publishPayload =>
    simp only [perform, Node.start, Node.stop, Node.stopOptimistic, Node.publish,
      Node.publishPayload, ho]
    exact .same rfl rfl rfl

theorem replaces_single {o : GossipObject} (ho : node.objects[i]? = some o)
    (single : (∃ m, o = .manager m) ∨ ∃ c, o = .channel c) (act : Act) :
    Replaces i o (o.performed node act) node (node.perform i act).2 := by
  obtain ⟨x, rfl⟩ | ⟨x, rfl⟩ := single
  all_goals
    cases act with
    | subscribe =>
      simp only [perform, Node.subscribe, ho]
      exact .put rfl rfl
    | unsubscribe =>
      simp only [perform, Node.unsubscribe, ho]
      exact .put rfl rfl
    | publishAttestation a =>
      simp only [perform, Node.publishAttestation, ho]
      cases node.attestations[a]? <;> exact .same rfl rfl rfl
    | start | stop | stopOptimistic | requestSubnet | releaseSubnet | publish | publishPayload
    | gossip =>
      simp only [perform, Node.start, Node.stop, Node.stopOptimistic, Node.requestSubnet,
        Node.releaseSubnet, Node.publish, Node.publishPayload, Node.gossip, ho]
      exact .same rfl rfl rfl

theorem replaces_perform (ho : node.objects[i]? = some o) (act : Act) :
    Replaces i o (o.performed node act) node (node.perform i act).2 := by
  cases o with
  | controller c => exact replaces_controller ho act
  | subnets s => exact replaces_subnets ho act
  | manager m => exact replaces_single ho (.inl ⟨m, rfl⟩) act
  | channel c => exact replaces_single ho (.inr ⟨c, rfl⟩) act

theorem objects_perform (ho : node.objects[i]? = some o) (act : Act) :
    (node.perform i act).2.objects = node.objects.set i (o.performed node act) := by
  cases replaces_perform ho act with
  | same object objects =>
    obtain ⟨hlt, he⟩ := List.getElem?_eq_some_iff.1 ho
    rw [objects, object, ← he, List.set_getElem_self]
  | put objects => exact objects

theorem objects_performed (ho : node.objects[i]? = some o) (act : Act) :
    (node.perform i act).2.objects[i]? = some (o.performed node act) := by
  rw [objects_perform ho, List.getElem?_set_self (List.getElem?_eq_some_iff.1 ho).1]

theorem serves_performed (ho : node.objects[i]? = some o) (act : Act) :
    o.Serves (o.performed node act) := by
  have hp := objects_performed ho act
  cases acted_perform node i act with
  | same objects =>
    rw [objects, ho, Option.some.injEq] at hp
    rw [← hp]
    exact .refl o
  | put found serves objects =>
    rw [objects, List.getElem?_set_self (List.getElem?_eq_some_iff.1 ho).1, Option.some.injEq] at hp
    rw [ho, Option.some.injEq] at found
    rw [← hp, found]
    exact serves

theorem objects_perform_none (ho : node.objects[i]? = none) (act : Act) :
    (node.perform i act).2.objects = node.objects := by
  cases acted_perform node i act with
  | same objects => exact objects
  | put found =>
    rw [ho] at found
    cases found

/-- Every object keeps to what it should. -/
def Kept (node : Node) : Prop := ∀ (i : Nat) (o : GossipObject), node.objects[i]? = some o → o.Kept

theorem Kept.ordered (h : node.Kept) : node.Ordered := by
  intro o ho
  obtain ⟨i, hi⟩ := List.mem_iff_getElem?.1 ho
  exact (h i o hi).ordered

theorem Kept.of_objects (h : node.Kept) {node' : Node} (objects : node'.objects = node.objects) :
    node'.Kept := by
  intro i o ho
  rw [objects] at ho
  exact h i o ho

theorem Kept.add (h : node.Kept) {o : GossipObject} (ho : o.Kept) : (node.add o).Kept := by
  intro i o' ho'
  rw [objects_add] at ho'
  split at ho'
  · rw [Option.some.injEq] at ho'
    exact ho' ▸ ho
  · exact h i o' ho'

theorem Kept.perform (h : node.Kept) (i : Nat) (act : Act) : (node.perform i act).2.Kept := by
  intro j o hj
  by_cases hij : i = j
  · subst hij
    cases ho : node.objects[i]? with
    | none =>
      rw [objects_perform_none ho, ho] at hj
      cases hj
    | some o' =>
      rw [objects_performed ho, Option.some.injEq] at hj
      subst hj
      exact (h i o' ho).performed node act
  · rw [(acted_perform node i act).objects_ne hij] at hj
    exact h j o hj

theorem Kept.poll (h : node.Kept) (a : Address) : (node.poll a).Kept := by
  cases hc : node.channel? a with
  | none =>
    rw [poll_none hc]
    exact h
  | some c =>
    intro i o hi
    rw [poll_some hc, List.getElem?_modify] at hi
    obtain ⟨o', ho', rfl⟩ := Option.map_eq_some_iff.1 hi
    split
    case isTrue ha =>
      subst ha
      rw [channel?, ho', Option.bind_some] at hc
      exact (h a.object o' ho').turned hc node.hub
    case isFalse => exact h i o' ho'

theorem Kept.sweep (h : node.Kept) (addresses : List Address) : (node.sweep addresses).1.Kept := by
  induction addresses generalizing node with
  | nil => exact h
  | cons a rest ih => exact ih (h.poll a)

theorem Kept.after (h : node.Kept) (e : Event) : (node.after e).Kept := by
  cases e with
  | addController fork settings =>
    exact h.add ⟨_, _, Controller.Tracks.ofFork fork settings⟩
  | addManager => exact h.add trivial
  | addSubnets settings digest =>
    exact Kept.add (o := .subnets _) (h.of_objects rfl) (SubnetSet.Kept.fresh settings digest)
  | addChannel => exact h.add trivial
  | act i act => exact h.perform i act
  | mark a =>
    have objects : (node.after (.mark a)).objects = node.objects := by
      simp only [Node.after, step, Node.mark]
      split <;> rfl
    exact h.of_objects objects
  | turn a => exact h.poll a
  | runTasks => exact (h.sweep node.tasks).of_objects rfl
  | _ => exact h.of_objects rfl

theorem Kept.run (h : node.Kept) (es : List Event) : (node.run es).Kept := by
  induction es generalizing node with
  | nil => exact h
  | cons e es ih => exact ih (h.after e)

theorem Reachable.kept (h : node.Reachable) : node.Kept := by
  obtain ⟨settings, schedule, es, rfl⟩ := h
  refine Kept.run ?_ es
  intro i o ho
  cases ho

end Node

end BeaconGossip
