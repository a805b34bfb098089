import BeaconGossip.Proofs.Channel.Invariant
import BeaconGossip.Proofs.GossipObject
import BeaconGossip.Proofs.Node.Run
import BeaconGossip.Proofs.Publishing

namespace BeaconGossip.Node

open Overlay Channel GossipObject

def Ordered (node : Node) : Prop := ∀ o ∈ node.objects, o.Ordered

/-- What may happen to the channels and the overlay while no reconcile task has a turn. -/
structure Serves (node node' : Node) : Prop where
  ordered : node.Ordered → node'.Ordered
  grown : node.Ordered → ∀ a, Grown (node.channel? a) (node'.channel? a)
  passes : ∀ topic, node.hub.overlay.Passes topic node'.hub.overlay

/-- What an event does to the channels and the overlay, piece by piece: an object is served, or a
reconcile task has a turn. -/
inductive Advance : Node → Node → Prop where
  | served {node node' : Node} (ordered : node.Ordered → node'.Ordered)
    (grown : node.Ordered → ∀ a, Grown (node.channel? a) (node'.channel? a))
    (passes : ∀ topic, node.hub.overlay.Passes topic node'.hub.overlay) : Advance node node'
  | turn (node : Node) (a : Address) : Advance node (node.poll a)

theorem Serves.advance {node node' : Node} (h : node.Serves node') : Advance node node' :=
  .served h.ordered h.grown h.passes

theorem Serves.refl (node : Node) : node.Serves node := ⟨id, fun _ _ => .refl _, fun _ => .refl⟩

theorem Serves.trans {node node' node'' : Node} (h : node.Serves node') (h' : node'.Serves node'') :
    node.Serves node'' :=
  ⟨fun ho => h'.ordered (h.ordered ho), fun ho a => (h.grown ho a).trans (h'.grown (h.ordered ho) a),
    fun topic => (h.passes topic).trans (h'.passes topic)⟩

theorem Ordered.channel?_ordered {node : Node} (h : node.Ordered) {i : Nat} {o : GossipObject}
    (ho : node.objects[i]? = some o) : o.Ordered := h o (List.mem_of_getElem? ho)

theorem Serves.same {node node' : Node} (objects : node'.objects = node.objects)
    (passes : ∀ topic, node.hub.overlay.Passes topic node'.hub.overlay) : node.Serves node' := by
  refine ⟨?_, ?_, passes⟩
  · rw [Ordered, Ordered, objects]
    exact id
  · intro _ a
    rw [channel?, channel?, objects]
    exact .refl _

theorem Serves.put {node node' : Node} {i : Nat} {o o' : GossipObject}
    (ho : node.objects[i]? = some o) (hs : o.Serves o')
    (objects : node'.objects = node.objects.set i o')
    (passes : ∀ topic, node.hub.overlay.Passes topic node'.hub.overlay) : node.Serves node' := by
  refine ⟨?_, ?_, passes⟩
  · intro h p hp
    rw [objects] at hp
    rcases List.mem_or_eq_of_mem_set hp with hp | rfl
    · exact h p hp
    · exact hs.ordered (h.channel?_ordered ho)
  · intro h a
    rw [channel?, channel?, objects, List.getElem?_set]
    by_cases hi : i = a.object
    · subst hi
      have hlt := (List.getElem?_eq_some_iff.1 ho).1
      rw [if_pos rfl, if_pos hlt, ho]
      exact hs.grown (h.channel?_ordered ho) a.lane
    · rw [if_neg hi]
      exact .refl _

theorem objects_add (node : Node) (o : GossipObject) (i : Nat) :
    (node.add o).objects[i]? = if i = node.objects.length then some o else node.objects[i]? := by
  change (node.objects ++ [o])[i]? = _
  by_cases hi : i = node.objects.length
  · subst hi
    rw [if_pos rfl, List.getElem?_concat_length]
  · rw [if_neg hi]
    by_cases hlt : i < node.objects.length
    · rw [List.getElem?_append_left hlt]
    · have hlen : (node.objects ++ [o]).length = node.objects.length + 1 := List.length_append
      rw [List.getElem?_eq_none (by omega), List.getElem?_eq_none (by omega)]

theorem Serves.add (node : Node) {o : GossipObject} (ordered : o.Ordered)
    (grown : ∀ lane, Grown none (o.channel? lane)) : node.Serves (node.add o) := by
  refine ⟨?_, ?_, fun _ => .refl⟩
  · intro h p hp
    rcases List.mem_append.1 hp with hp | hp
    · exact h p hp
    · rw [List.mem_singleton] at hp
      subst hp
      exact ordered
  · intro _ a
    rw [channel?, channel?, objects_add]
    by_cases ha : a.object = node.objects.length
    · rw [if_pos ha, ha, List.getElem?_eq_none (Nat.le_refl _)]
      exact grown a.lane
    · rw [if_neg ha]
      exact .refl _

theorem serves_add_sole (node : Node) {o : GossipObject} {e : Endpoint} {limit : Nat}
    (ordered : o.Ordered) (lanes : o.lanes = [(.sole, .fresh e limit)]) :
    node.Serves (node.add o) := by
  refine .add node ordered ?_
  intro lane
  rw [channel?_sole lanes]
  split
  · exact ⟨e, limit, .opened []⟩
  · exact .refl none

/-- What an act does to its object, and nothing else: it leaves the object alone or serves it. -/
inductive Acted (i : Nat) (node node' : Node) : Prop where
  | same (objects : node'.objects = node.objects)
    (passes : ∀ topic, node.hub.overlay.Passes topic node'.hub.overlay) : Acted i node node'
  | put {o o' : GossipObject} (found : node.objects[i]? = some o) (serves : o.Serves o')
    (objects : node'.objects = node.objects.set i o')
    (passes : ∀ topic, node.hub.overlay.Passes topic node'.hub.overlay) : Acted i node node'

theorem Acted.serves {i : Nat} {node node' : Node} (h : Acted i node node') : node.Serves node' := by
  cases h with
  | same objects passes => exact .same objects passes
  | put found serves objects passes => exact .put found serves objects passes

theorem Acted.objects_ne {i j : Nat} {node node' : Node} (h : Acted i node node') (hij : i ≠ j) :
    node'.objects[j]? = node.objects[j]? := by
  cases h with
  | same objects => rw [objects]
  | put _ _ objects => rw [objects, List.getElem?_set_ne hij]

section Acts

variable (node : Node) (i : Nat)

theorem acted_start (root : Root) (optimistic : Bool) :
    Acted i node (node.start i root optimistic).2 := by
  unfold Node.start
  split
  · rename_i c hc
    split
    · exact .same rfl fun _ => .refl
    · rename_i c' schedule registry hs
      exact .put hc (serves_start hs) rfl fun _ => .refl
  · exact .same rfl fun _ => .refl

theorem acted_stop : Acted i node (node.stop i) := by
  unfold Node.stop
  split
  · rename_i c hc
    exact .put hc (serves_map rfl fun m => m.serves_unsubscribe true) rfl fun _ => .refl
  · exact .same rfl fun _ => .refl

theorem acted_stopOptimistic : Acted i node (node.stopOptimistic i) := by
  unfold Node.stopOptimistic
  split
  · rename_i c hc
    exact .put hc (serves_map rfl fun m => m.serves_unsubscribe false) rfl fun _ => .refl
  · exact .same rfl fun _ => .refl

theorem acted_subscribe : Acted i node (node.subscribe i) := by
  unfold Node.subscribe
  split
  · rename_i m hm
    exact .put hm (serves_manager m true) rfl fun _ => .refl
  · rename_i s hs
    exact .put hs (serves_subnets s.serves_subscribe) rfl fun _ => .refl
  · rename_i c hc
    exact .put hc (serves_channel c true) rfl fun _ => .refl
  · exact .same rfl fun _ => .refl

theorem acted_unsubscribe : Acted i node (node.unsubscribe i) := by
  unfold Node.unsubscribe
  split
  · rename_i m hm
    exact .put hm (serves_manager m false) rfl fun _ => .refl
  · rename_i s hs
    exact .put hs (serves_subnets s.serves_unsubscribe) rfl fun _ => .refl
  · rename_i c hc
    exact .put hc (serves_channel c false) rfl fun _ => .refl
  · exact .same rfl fun _ => .refl

theorem acted_requestSubnet (index : UInt64) : Acted i node (node.requestSubnet i index).2 := by
  unfold Node.requestSubnet
  split
  · rename_i c hc
    split
    · exact .same rfl fun _ => .refl
    · rename_i c' registry hs
      exact .put hc (serves_requestSubnet hs) rfl fun _ => .refl
  · rename_i s hs
    exact .put hs (serves_subnets (s.serves_request ⟨index⟩ node.hub.registry)) rfl fun _ => .refl
  · exact .same rfl fun _ => .refl

theorem acted_releaseSubnet (index : UInt64) : Acted i node (node.releaseSubnet i index).2 := by
  unfold Node.releaseSubnet
  split
  · rename_i c hc
    split
    · exact .same rfl fun _ => .refl
    · rename_i c' registry hs
      exact .put hc (serves_releaseSubnet hs) rfl fun _ => .refl
  · rename_i s hs
    exact .put hs (serves_subnets (s.serves_release ⟨index⟩ node.hub.registry)) rfl fun _ => .refl
  · exact .same rfl fun _ => .refl

/-- What is handed to the overlay is of no account to any channel. -/
theorem passes_of_published {o o' : Overlay} {output : List (String × Bytes)}
    (h : o' = o.published output) (topic : String) : o.Passes topic o' := by
  rw [h]
  exact passes_published o output topic

theorem acted_publish (message : Message) : Acted i node (node.publish i message).2 := by
  unfold Node.publish
  split
  · rename_i c hc
    exact .same rfl (passes_of_published (c.published_publish message node.hub))
  · rename_i m hm
    exact .same rfl (passes_of_published (m.published_offer message node.hub))
  · exact .same rfl fun _ => .refl

theorem acted_publishPayload (payload : Bytes) :
    Acted i node (node.publishPayload i payload).2 := by
  unfold Node.publishPayload
  split
  · rename_i c hc
    exact .same rfl (passes_of_published (c.published_publish payload node.hub))
  · exact .same rfl fun _ => .refl

theorem acted_publishAttestation (a : Nat) : Acted i node (node.publishAttestation i a) := by
  unfold Node.publishAttestation
  split
  · rename_i c att hc ha
    exact .put hc (serves_publishAttestation c att node.hub) rfl
      (passes_of_published (c.published_publishAttestation att node.hub))
  · rename_i s att hs ha
    exact .put hs (serves_subnets (s.serves_offer att node.hub)) rfl
      (passes_of_published (s.published_offer att node.hub))
  · rename_i m att hm ha
    exact .same rfl (passes_of_published (m.published_offerAggregate att node.hub))
  · exact .same rfl fun _ => .refl

theorem acted_gossip (a : Nat) : Acted i node (node.gossip i a).2 := by
  unfold Node.gossip
  split
  · rename_i s att hs ha
    exact .put hs (serves_subnets (s.serves_gossip att node.hub)) rfl
      (passes_of_published (s.published_gossip att node.hub))
  · exact .same rfl fun _ => .refl

theorem acted_perform (act : Act) : Acted i node (node.perform i act).2 := by
  cases act with
  | start root optimistic => exact acted_start ..
  | stop => exact acted_stop ..
  | stopOptimistic => exact acted_stopOptimistic ..
  | subscribe => exact acted_subscribe ..
  | unsubscribe => exact acted_unsubscribe ..
  | requestSubnet index => exact acted_requestSubnet ..
  | releaseSubnet index => exact acted_releaseSubnet ..
  | publish message => exact acted_publish ..
  | publishPayload payload => exact acted_publishPayload ..
  | publishAttestation a => exact acted_publishAttestation ..
  | gossip a => exact acted_gossip ..

end Acts

theorem deliver_overlay (e : Endpoint) (payload : Bytes) (h : Hub) :
    (e.deliver payload h).2.overlay = h.overlay := by
  unfold Endpoint.deliver
  simp only [Hub.count]
  split
  · split <;> rfl
  · rfl

/-- Whether reconcile tasks have turns. -/
def Event.isTurn : Event → Bool
  | .turn _ | .runTasks => true
  | _ => false

theorem serves_after (node : Node) {e : Event} (he : e.isTurn = false) :
    node.Serves (node.after e) := by
  cases e with
  | addController fork settings =>
    refine .add node ?_ ?_
    · intro m hm
      cases hm
    · intro lane
      rw [channel?_stopped rfl]
      exact .refl none
  | addManager settings digest cls => exact serves_add_sole node trivial rfl
  | addSubnets settings digest =>
    have touched : node.Serves { node with
        hub := { node.hub with
          registry := node.hub.registry.touch (SubnetSet.fresh settings digest).gauge } } :=
      .same rfl fun _ => .refl
    refine touched.trans (.add _ ?_ ?_)
    · exact List.Pairwise.nil
    · intro lane
      cases lane <;> exact .refl none
  | addChannel endpoint limit => exact serves_add_sole node trivial rfl
  | act i act => exact (acted_perform node i act).serves
  | addAttestation => exact .same rfl fun _ => .refl
  | mark a =>
    refine .same ?_ fun topic => ?_ <;>
      simp only [after, step, Node.mark] <;> split
    · rfl
    · rfl
    · exact .refl
    · exact .refl
  | setGenesisRoot => exact .same rfl fun _ => .refl
  | setVerdict => exact .same rfl fun _ => .refl
  | setRule rule => exact .same rfl (passes_setRule node.hub.overlay rule)
  | release r => exact .same rfl (passes_release node.hub.overlay r)
  | answer n r => exact .same rfl (passes_answer node.hub.overlay n r)
  | deliver endpoint payload =>
    refine .same rfl ?_
    intro topic
    have ho : (node.after (.deliver endpoint payload)).hub.overlay = node.hub.overlay :=
      deliver_overlay endpoint payload node.hub
    rw [ho]
    exact .refl
  | turn => cases he
  | report => exact .same rfl fun _ => .refl
  | runTasks => cases he

theorem serves_run {node : Node} {es : List Event} (he : ∀ e ∈ es, e.isTurn = false) :
    node.Serves (node.run es) := by
  induction es generalizing node with
  | nil => exact .refl node
  | cons e es ih =>
    exact (serves_after node (he e List.mem_cons_self)).trans
      (ih fun e' hm => he e' (List.mem_cons_of_mem e hm))

/-- Apart from turns of reconcile tasks, only acts on an object change it. -/
theorem objects_after {node : Node} {i : Nat} (hi : i < node.objects.length) {e : Event}
    (he : e.isTurn = false) (unasked : ∀ act, e ≠ .act i act) :
    (node.after e).objects[i]? = node.objects[i]? := by
  have hadd (o : GossipObject) : (node.add o).objects[i]? = node.objects[i]? := by
    rw [objects_add, if_neg (by omega)]
  cases e with
  | addController => exact hadd _
  | addManager => exact hadd _
  | addSubnets => exact hadd _
  | addChannel => exact hadd _
  | act j act =>
    have hj : j ≠ i := fun h => unasked act (by rw [h])
    exact (acted_perform node j act).objects_ne hj
  | mark a =>
    simp only [after, step, Node.mark]
    split <;> rfl
  | turn => cases he
  | runTasks => cases he
  | _ => rfl

def Advances : Node → Node → Prop := Relation.ReflTransGen Advance

theorem advances_sweep (addresses : List Address) (node : Node) :
    Advances node (node.sweep addresses).1 := by
  induction addresses generalizing node with
  | nil => exact .refl
  | cons a rest ih => exact .head (.turn node a) (ih (node.poll a))

theorem advances_runTasks (node : Node) : Advances node node.runTasks := by
  have reported : (node.sweep node.tasks).1.Serves node.runTasks := .same rfl fun _ => .refl
  exact (advances_sweep node.tasks node).tail reported.advance

theorem advances_after (node : Node) (e : Event) : Advances node (node.after e) := by
  cases he : e.isTurn with
  | false => exact .single (serves_after node he).advance
  | true =>
    cases e with
    | turn a => exact .single (.turn node a)
    | runTasks => exact advances_runTasks node
    | _ => cases he

theorem poll_none {node : Node} {a : Address} (hc : node.channel? a = none) : node.poll a = node := by
  simp only [Node.poll, hc]

theorem poll_some {node : Node} {a : Address} {c : Channel} (hc : node.channel? a = some c) :
    node.poll a = { node with
      hub := (c.poll node.hub).2
      objects := node.objects.modify a.object
        (·.onLane a.lane fun _ => (c.poll node.hub).1) } := by
  simp only [Node.poll, hc]

theorem objects_poll {node : Node} {o : GossipObject} {a : Address} {c : Channel}
    (hc : node.channel? a = some c) (ho : node.objects[a.object]? = some o) :
    (node.poll a).objects =
      node.objects.set a.object (o.onLane a.lane fun _ => (c.poll node.hub).1) := by
  rw [poll_some hc]
  dsimp only
  rw [List.modify_eq_set_getElem?, ho]
  rfl

theorem channel?_poll {node : Node} {a : Address} {c : Channel} (hc : node.channel? a = some c)
    (b : Address) :
    (node.poll a).channel? b = if b = a then some (c.poll node.hub).1 else node.channel? b := by
  have he := poll_endpoint c node.hub
  rw [poll_some hc, channel?, channel?, List.getElem?_modify]
  rw [channel?, Option.bind_eq_some_iff] at hc
  obtain ⟨o, ho, hl⟩ := hc
  by_cases hi : a.object = b.object
  · rw [hi] at ho
    simp only [hi, if_true, ho, Option.map_eq_map, Option.map_some, Option.bind_some]
    rw [channel?_onLane hl he]
    by_cases hlane : b.lane = a.lane
    · have hb : b = a := by
        cases a
        cases b
        simp only at hi hlane
        rw [hi, hlane]
      rw [if_pos hlane, if_pos hb]
    · rw [if_neg hlane, if_neg (by rintro rfl; exact hlane rfl)]
  · rw [if_neg (by rintro rfl; exact hi rfl)]
    simp [hi]

theorem Ordered.poll {node : Node} (h : node.Ordered) (a : Address) : (node.poll a).Ordered := by
  cases hc : node.channel? a with
  | none =>
    rw [poll_none hc]
    exact h
  | some c =>
    rw [poll_some hc]
    intro o ho
    obtain ⟨i, hi⟩ := List.mem_iff_getElem?.1 ho
    rw [List.getElem?_modify] at hi
    obtain ⟨o', ho', rfl⟩ := Option.map_eq_some_iff.1 hi
    split
    · exact (h.channel?_ordered ho').onLane ..
    · exact h.channel?_ordered ho'

end BeaconGossip.Node
