import BeaconGossip.Proofs.Node.Perform
import BeaconGossip.Proofs.SubnetSet.Gauge
import Mathlib.Algebra.BigOperators.Group.List.Basic
import Mathlib.Algebra.Ring.Int.Defs

namespace BeaconGossip

open Node (Act Event)

namespace Controller

/-- The attestation subnets, once the managers have been built. -/
def subnetSet? (c : Controller) : Option SubnetSet := c.managers.map (·.attestation)

variable {c : Controller} {r : Registry}

theorem metered_handOver (c : Controller) (r : Registry) :
    Metered c.subnetSet? (c.handOver r).1.subnetSet? r (c.handOver r).2 := by
  cases hm : c.managers with
  | none =>
    simp only [handOver, hm]
    exact .refl ..
  | some m =>
    simp only [handOver, subnetSet?, hm]
    exact m.attestation.metered_requests r c.waiting

theorem metered_subnetSet? {c' : Controller} {g : Managers → Managers} {r' : Registry}
    (managers : c'.managers = c.managers.map g)
    (hg : ∀ m, (g m).attestation.namer = m.attestation.namer ∧
      (g m).attestation.requested = m.attestation.requested) (h : r'.gauge = r.gauge) :
    Metered c.subnetSet? c'.subnetSet? r r' := by
  rw [subnetSet?, subnetSet?, managers]
  cases c.managers with
  | none => exact .same none h
  | some m => exact .of_fields (hg m).1 (hg m).2 h

theorem metered_subscribe (c : Controller) (head : Bool) (r : Registry) :
    Metered c.subnetSet? (c.subscribe head).subnetSet? r r := by
  refine metered_subnetSet? rfl (fun m => ?_) rfl
  simp only [Managers.subscribe]
  split
  · exact ⟨m.attestation.serves_subscribe.namer, m.attestation.subscribe_requested⟩
  · exact ⟨rfl, rfl⟩

theorem metered_unsubscribe {c' : Controller} {all : Bool}
    (managers : c'.managers = c.managers.map (·.unsubscribe all)) (r : Registry) :
    Metered c.subnetSet? c'.subnetSet? r r := by
  refine metered_subnetSet? managers (fun m => ?_) rfl
  simp only [Managers.unsubscribe]
  split <;> exact ⟨rfl, rfl⟩

theorem metered_fresh (settings : Settings) (digest : ForkDigest) (r : Registry)
    (s : Registry.Series) : Metered none (some (.fresh settings digest)) r (r.touch s) := by
  refine ⟨fun _ x hx => ?_, fun _ d => ?_⟩
  · obtain rfl := Option.some.inj hx
    exact List.nodup_nil
  · rw [Registry.gauge_touch, requestedOf, requestedOf, SubnetSet.fresh, List.length_nil]
    exact congrArg _ (ite_self _).symm

theorem metered_build {root : Root} {schedule schedule' : Schedule} {c' : Controller}
    {r' : Registry} (h : c.build root schedule r = .ok (c', schedule', r')) :
    Metered c.subnetSet? c'.subnetSet? r r' := by
  obtain ⟨-, rfl, -, rfl⟩ | ⟨hm, digest, -, rfl, rfl⟩ := build_ok h
  · exact .refl ..
  · rw [subnetSet?, hm]
    exact metered_fresh ..

theorem metered_start {root : Root} {head : Bool} {schedule schedule' : Schedule}
    {c' : Controller} {r' : Registry} (h : c.start root head schedule r = .ok (c', schedule', r')) :
    Metered c.subnetSet? c'.subnetSet? r r' := by
  obtain ⟨c₁, r₁, built, rfl, rfl⟩ := start_build h
  exact ((metered_build built).trans (c₁.metered_handOver r₁)).trans (metered_subscribe _ head _)

theorem metered_requestSubnet {index : UInt64} {c' : Controller} {r' : Registry}
    (h : c.requestSubnet index r = .ok (c', r')) :
    Metered c.subnetSet? c'.subnetSet? r r' := by
  rw [requestSubnet] at h
  cases hi : SubnetId.check index c.settings.subnetCount with
  | error e =>
    simp only [hi] at h
    cases h
  | ok id =>
    cases hm : c.managers with
    | none =>
      simp only [hi, hm, Except.ok.injEq, Prod.mk.injEq] at h
      obtain ⟨rfl, rfl⟩ := h
      rw [subnetSet?, subnetSet?, hm]
      exact .refl ..
    | some m =>
      simp only [hi, hm, Except.ok.injEq, Prod.mk.injEq] at h
      obtain ⟨rfl, rfl⟩ := h
      rw [subnetSet?, hm]
      exact m.attestation.metered_request id r

theorem metered_releaseSubnet {index : UInt64} {c' : Controller} {r' : Registry}
    (h : c.releaseSubnet index r = .ok (c', r')) :
    Metered c.subnetSet? c'.subnetSet? r r' := by
  rw [releaseSubnet] at h
  cases hi : SubnetId.check index c.settings.subnetCount with
  | error e =>
    simp only [hi] at h
    cases h
  | ok id =>
    cases hm : c.managers with
    | none =>
      simp only [hi, hm, Except.ok.injEq, Prod.mk.injEq] at h
      obtain ⟨rfl, rfl⟩ := h
      rw [subnetSet?, subnetSet?, hm]
      exact .refl ..
    | some m =>
      simp only [hi, hm, Except.ok.injEq, Prod.mk.injEq] at h
      obtain ⟨rfl, rfl⟩ := h
      rw [subnetSet?, hm]
      exact m.attestation.metered_release id r

@[simp] theorem gauge_publish (c : Controller) (message : Message) (h : Hub) :
    (c.publish message h).2.registry.gauge = h.registry.gauge := by
  unfold publish
  split
  · rfl
  · split
    · rfl
    · exact TopicManager.gauge_offer ..

theorem gauge_publishAttestation (c : Controller) (a : GossipAttestation) (h : Hub) :
    (c.publishAttestation a h).2.2.registry.gauge = h.registry.gauge := by
  unfold publishAttestation
  split
  · rfl
  · dsimp only
    split
    · exact SubnetSet.gauge_offer ..
    · exact (TopicManager.gauge_offerAggregate ..).trans (SubnetSet.gauge_offer ..)

theorem metered_publishAttestation (c : Controller) (a : GossipAttestation) (h : Hub) :
    Metered c.subnetSet? (c.publishAttestation a h).2.1.subnetSet? h.registry
      (c.publishAttestation a h).2.2.registry := by
  rw [publishAttestation_controller]
  exact metered_subnetSet? rfl
    (fun m => ⟨(m.attestation.serves_offer a h).namer, (m.attestation.offer_fields a h).2⟩)
    (gauge_publishAttestation c a h)

end Controller

namespace GossipObject

/-- The attestation subnets of the object, if it has any. -/
def subnetSet? : GossipObject → Option SubnetSet
  | controller c => c.subnetSet?
  | subnets s => some s
  | _ => none

theorem subnetSet?_onLane (o : GossipObject) (lane : Lane) (f : Channel → Channel) (r : Registry) :
    Metered o.subnetSet? (o.onLane lane f).subnetSet? r r := by
  cases o with
  | controller c =>
    refine Controller.metered_subnetSet? rfl (fun m => ?_) rfl
    cases lane <;> exact ⟨rfl, rfl⟩
  | subnets s => cases lane <;> exact .of_fields rfl rfl rfl
  | manager m => cases lane <;> exact .refl ..
  | channel c => cases lane <;> exact .refl ..

end GossipObject

namespace Node

variable {node : Node} {i : Nat} {o : GossipObject}

theorem metered_controller {c : Controller} (ho : node.objects[i]? = some (.controller c))
    (act : Act) :
    Metered c.subnetSet? (c.performed node act).subnetSet? node.hub.registry
      (node.perform i act).2.hub.registry := by
  cases act with
  | start root head =>
    simp only [perform, Node.start, ho, Controller.performed]
    cases h : c.start root head node.schedule node.hub.registry with
    | error e => exact .refl ..
    | ok p => exact Controller.metered_start h
  | stop =>
    simp only [perform, Node.stop, ho]
    exact Controller.metered_unsubscribe rfl _
  | stopOptimistic =>
    simp only [perform, Node.stopOptimistic, ho]
    exact Controller.metered_unsubscribe rfl _
  | requestSubnet index =>
    simp only [perform, Node.requestSubnet, ho, Controller.performed]
    cases h : c.requestSubnet index node.hub.registry with
    | error e => exact .refl ..
    | ok p => exact Controller.metered_requestSubnet h
  | releaseSubnet index =>
    simp only [perform, Node.releaseSubnet, ho, Controller.performed]
    cases h : c.releaseSubnet index node.hub.registry with
    | error e => exact .refl ..
    | ok p => exact Controller.metered_releaseSubnet h
  | publish message =>
    simp only [perform, Node.publish, ho]
    exact .same _ (c.gauge_publish message node.hub)
  | publishAttestation n =>
    simp only [perform, Node.publishAttestation, ho, Controller.performed]
    cases node.attestations[n]? with
    | none => exact .refl ..
    | some a => exact c.metered_publishAttestation a node.hub
  | subscribe | unsubscribe | publishPayload | gossip =>
    simp only [perform, Node.subscribe, Node.unsubscribe, Node.publishPayload, Node.gossip, ho]
    exact .refl ..

theorem metered_subnets {s : SubnetSet} (ho : node.objects[i]? = some (.subnets s)) (act : Act) :
    Metered (some s) (some (s.performed node act)) node.hub.registry
      (node.perform i act).2.hub.registry := by
  cases act with
  | subscribe =>
    simp only [perform, Node.subscribe, ho]
    exact .of_fields s.serves_subscribe.namer s.subscribe_requested rfl
  | unsubscribe =>
    simp only [perform, Node.unsubscribe, ho]
    exact .of_fields rfl rfl rfl
  | requestSubnet index =>
    simp only [perform, Node.requestSubnet, ho]
    exact s.metered_request ..
  | releaseSubnet index =>
    simp only [perform, Node.releaseSubnet, ho]
    exact s.metered_release ..
  | publishAttestation n =>
    simp only [perform, Node.publishAttestation, ho, SubnetSet.performed]
    cases node.attestations[n]? with
    | none => exact .refl ..
    | some a =>
      exact .of_fields (s.serves_offer a node.hub).namer (s.offer_fields a node.hub).2
        (s.gauge_offer a node.hub)
  | gossip n =>
    simp only [perform, Node.gossip, ho, SubnetSet.performed]
    cases node.attestations[n]? with
    | none => exact .refl ..
    | some a => exact .of_fields (s.serves_gossip a node.hub).namer rfl (s.gauge_gossip a node.hub)
  | start | stop | stopOptimistic | publish | publishPayload =>
    simp only [perform, Node.start, Node.stop, Node.stopOptimistic, Node.publish,
      Node.publishPayload, ho]
    exact .refl ..

theorem metered_perform (ho : node.objects[i]? = some o) (act : Act) :
    Metered o.subnetSet? (o.performed node act).subnetSet? node.hub.registry
      (node.perform i act).2.hub.registry := by
  cases o with
  | controller c => exact metered_controller ho act
  | subnets s => exact metered_subnets ho act
  | manager m =>
    refine .same none ?_
    cases act with
    | publish message =>
      simp only [perform, Node.publish, ho]
      exact m.gauge_offer message node.hub
    | publishAttestation n =>
      simp only [perform, Node.publishAttestation, ho]
      cases node.attestations[n]? with
      | none => rfl
      | some a => exact m.gauge_offerAggregate a node.hub
    | subscribe | unsubscribe =>
      simp only [perform, Node.subscribe, Node.unsubscribe, ho]
      rfl
    | start | stop | stopOptimistic | requestSubnet | releaseSubnet | publishPayload | gossip =>
      simp only [perform, Node.start, Node.stop, Node.stopOptimistic, Node.requestSubnet,
        Node.releaseSubnet, Node.publishPayload, Node.gossip, ho]
  | channel c =>
    refine .same none ?_
    cases act with
    | publishPayload payload =>
      simp only [perform, Node.publishPayload, ho]
      exact c.gauge_publish payload node.hub
    | subscribe | unsubscribe =>
      simp only [perform, Node.subscribe, Node.unsubscribe, ho]
      rfl
    | start | stop | stopOptimistic | requestSubnet | releaseSubnet | publish
    | publishAttestation | gossip =>
      simp only [perform, Node.start, Node.stop, Node.stopOptimistic, Node.requestSubnet,
        Node.releaseSubnet, Node.publish, Node.publishAttestation, Node.gossip, ho]

/-- The subnets that all sets of the node together have requested under the digest. -/
def requestedOf (node : Node) (d : ForkDigest) : Int :=
  (node.objects.map fun o => BeaconGossip.requestedOf d o.subnetSet?).sum

/-- Every gauge shows what is requested under its digest. -/
structure Gauged (node : Node) : Prop where
  distinct : ∀ o ∈ node.objects, Distinct o.subnetSet?
  gauge : ∀ d, node.hub.registry.gauge d = node.requestedOf d

namespace Gauged

theorem of_objects (h : node.Gauged) {node' : Node} (objects : node'.objects = node.objects)
    (registry : node'.hub.registry.gauge = node.hub.registry.gauge) : node'.Gauged := by
  refine ⟨objects ▸ h.distinct, fun d => ?_⟩
  rw [registry, h.gauge, requestedOf, requestedOf, objects]

theorem add (h : node.Gauged) {node' : Node} (objects : node'.objects = node.objects ++ [o])
    (registry : node'.hub.registry.gauge = node.hub.registry.gauge)
    (distinct : Distinct o.subnetSet?) (none : ∀ d, BeaconGossip.requestedOf d o.subnetSet? = 0) :
    node'.Gauged := by
  refine ⟨fun p hp => ?_, fun d => ?_⟩
  · rw [objects] at hp
    rcases List.mem_append.1 hp with hp | hp
    · exact h.distinct p hp
    · rw [List.mem_singleton.1 hp]
      exact distinct
  · rw [registry, h.gauge, requestedOf, requestedOf, objects, List.map_append, List.sum_append,
      List.map_singleton, List.sum_singleton, none, Int.add_zero]

theorem set (h : node.Gauged) {node' : Node} {o' : GossipObject} (ho : node.objects[i]? = some o)
    (objects : node'.objects = node.objects.set i o')
    (metered : Metered o.subnetSet? o'.subnetSet? node.hub.registry node'.hub.registry) :
    node'.Gauged := by
  have distinct := h.distinct o (List.mem_of_getElem? ho)
  obtain ⟨hi, he⟩ := List.getElem?_eq_some_iff.1 ho
  refine ⟨fun p hp => ?_, fun d => ?_⟩
  · rw [objects] at hp
    rcases List.mem_or_eq_of_mem_set hp with hp | rfl
    · exact h.distinct p hp
    · exact metered.distinct distinct
  · have moved := metered.gauge distinct d
    have before := h.gauge d
    have split : node.objects = node.objects.take i ++ o :: node.objects.drop (i + 1) := by
      rw [← he, List.cons_getElem_drop_succ, List.take_append_drop]
    have split' : node'.objects = node.objects.take i ++ o' :: node.objects.drop (i + 1) := by
      rw [objects, List.set_eq_take_append_cons_drop, if_pos hi]
    rw [requestedOf, split, List.map_append, List.sum_append, List.map_cons,
      List.sum_cons] at before
    rw [requestedOf, split', List.map_append, List.sum_append, List.map_cons, List.sum_cons]
    omega

theorem perform (h : node.Gauged) (i : Nat) (act : Act) : (node.perform i act).2.Gauged := by
  cases ho : node.objects[i]? with
  | none =>
    rw [perform_none ho]
    exact h
  | some o => exact h.set ho (objects_perform ho act) (metered_perform ho act)

theorem poll (h : node.Gauged) (a : Address) : (node.poll a).Gauged := by
  cases hc : node.channel? a with
  | none =>
    rw [poll_none hc]
    exact h
  | some c =>
    obtain ⟨o, ho, -⟩ := Option.bind_eq_some_iff.1 hc
    have registry : (node.poll a).hub.registry.gauge = node.hub.registry.gauge := by
      rw [poll_some hc]
      exact c.gauge_poll node.hub
    exact h.set ho (objects_poll hc ho) ((o.subnetSet?_onLane a.lane _ _).trans (.same _ registry))

theorem sweep (h : node.Gauged) (addresses : List Address) : (node.sweep addresses).1.Gauged := by
  induction addresses generalizing node with
  | nil => exact h
  | cons a rest ih => exact ih (h.poll a)

theorem after (h : node.Gauged) (e : Event) : (node.after e).Gauged := by
  cases e with
  | addController fork settings => exact h.add rfl rfl nofun fun _ => rfl
  | addManager settings digest cls => exact h.add rfl rfl nofun fun _ => rfl
  | addChannel endpoint limit => exact h.add rfl rfl nofun fun _ => rfl
  | addSubnets settings digest =>
    refine h.add rfl (Registry.gauge_touch ..) (fun x hx => ?_) fun d => ite_self _
    obtain rfl := Option.some.inj hx
    exact List.nodup_nil
  | act i act => exact h.perform i act
  | mark n =>
    rw [after_mark]
    exact h.of_objects rfl rfl
  | deliver endpoint payload => exact h.of_objects rfl (endpoint.gauge_deliver payload node.hub)
  | turn a => exact h.poll a
  | report => exact h.of_objects rfl (Hub.gauge_report node.hub)
  | runTasks => exact (h.sweep node.tasks).of_objects rfl (Hub.gauge_report _)
  | _ => exact h.of_objects rfl rfl

theorem run (h : node.Gauged) (es : List Event) : (node.run es).Gauged := by
  induction es generalizing node with
  | nil => exact h
  | cons e es ih => exact ih (h.after e)

end Gauged

theorem Reachable.gauged (h : node.Reachable) : node.Gauged := by
  obtain ⟨settings, schedule, es, rfl⟩ := h
  refine Gauged.run ⟨fun o ho => ?_, fun d => rfl⟩ es
  cases ho

end Node

end BeaconGossip
