import BeaconGossip.Proofs.Node.Offers

namespace BeaconGossip

open Node (Act)

namespace GossipObject

/-- What the act makes the object hand to the overlay. -/
def output (o : GossipObject) (attestations : List GossipAttestation) :
    Act → List (String × Bytes)
  | .publish message =>
    match o with
    | controller c => c.output message
    | manager m => m.output message
    | _ => []
  | .publishPayload payload =>
    match o with
    | channel c => c.output payload
    | _ => []
  | .publishAttestation n =>
    match o, attestations[n]? with
    | controller c, some a => c.attestationOutput a
    | manager m, some a => m.aggregateOutput a
    | subnets s, some a => s.output a
    | _, _ => []
  | .gossip n =>
    match o, attestations[n]? with
    | subnets s, some a => s.gossipOutput a
    | _, _ => []
  | _ => []

/-- The schedule once the object has been started: only managers that are still to be built look up
the digest. -/
def scheduled (o : GossipObject) (schedule : Schedule) : Schedule :=
  match o with
  | controller c =>
    match c.managers, schedule.digestAt c.fork.epoch with
    | none, (.ok _, schedule') => schedule'
    | _, _ => schedule
  | _ => schedule

/-- Without requests no tasks are spawned. -/
theorem Kept.spawned_self {o : GossipObject} (h : o.Kept) : o.spawned o = [] := by
  rw [spawned, List.flatMap_eq_nil_iff]
  rintro ⟨lane, c⟩ hm
  have unfinished : o.unfinished lane = c.unfinished := by
    rw [GossipObject.unfinished, h.channel?_of_mem hm, Option.map_some, Option.getD_some]
  dsimp only
  rw [unfinished, Nat.sub_self, List.replicate_zero]

end GossipObject

namespace Node

variable {node : Node} {i : Nat} {o : GossipObject}

theorem perform_none (ho : node.objects[i]? = none) (act : Act) :
    (node.perform i act).2 = node := by
  cases act <;>
    simp only [perform, Node.start, Node.stop, Node.stopOptimistic, Node.subscribe,
      Node.unsubscribe, Node.requestSubnet, Node.releaseSubnet, Node.publish, Node.publishPayload,
      Node.publishAttestation, Node.gossip, ho]

theorem perform_overlay (ho : node.objects[i]? = some o) (act : Act) :
    (node.perform i act).2.hub.overlay =
      node.hub.overlay.published (o.output node.attestations act) := by
  cases act with
  | start root head =>
    simp only [perform, Node.start, ho]
    cases o with
    | controller c =>
      dsimp only
      cases c.start root head node.schedule node.hub.registry <;> rfl
    | _ => rfl
  | requestSubnet index =>
    simp only [perform, Node.requestSubnet, ho]
    cases o with
    | controller c =>
      dsimp only
      cases c.requestSubnet index node.hub.registry <;> rfl
    | _ => rfl
  | releaseSubnet index =>
    simp only [perform, Node.releaseSubnet, ho]
    cases o with
    | controller c =>
      dsimp only
      cases c.releaseSubnet index node.hub.registry <;> rfl
    | _ => rfl
  | publish message =>
    simp only [perform, Node.publish, ho]
    cases o with
    | controller c => exact c.published_publish message node.hub
    | manager m => exact m.published_offer message node.hub
    | _ => rfl
  | publishPayload payload =>
    simp only [perform, Node.publishPayload, ho]
    cases o with
    | channel c => exact c.published_publish payload node.hub
    | _ => rfl
  | publishAttestation n =>
    simp only [perform, Node.publishAttestation, ho, GossipObject.output]
    cases node.attestations[n]? with
    | none => cases o <;> rfl
    | some a =>
      cases o with
      | controller c => exact c.published_publishAttestation a node.hub
      | manager m => exact m.published_offerAggregate a node.hub
      | subnets s => exact s.published_offer a node.hub
      | channel c => rfl
  | gossip n =>
    simp only [perform, Node.gossip, ho, GossipObject.output]
    cases node.attestations[n]? with
    | none => cases o <;> rfl
    | some a =>
      cases o with
      | subnets s => exact s.published_gossip a node.hub
      | _ => rfl
  | _ =>
    simp only [perform, Node.stop, Node.stopOptimistic, Node.subscribe, Node.unsubscribe, ho]
    cases o <;> rfl

theorem start_schedule (node : Node) (i : Nat) (root : Root) (head : Bool) :
    (node.start i root head).2.schedule =
      (node.objects[i]?).elim node.schedule (·.scheduled node.schedule) := by
  unfold Node.start
  cases node.objects[i]? with
  | none => rfl
  | some o =>
    cases o with
    | controller c =>
      rw [Option.elim_some]
      dsimp only [GossipObject.scheduled]
      cases hm : c.managers with
      | some m => rw [Controller.start_started hm]; rfl
      | none =>
        rw [Controller.start_unstarted hm]
        rcases node.schedule.digestAt c.fork.epoch with ⟨_ | digest, schedule⟩ <;> rfl
    | _ => rfl

theorem after_mark (node : Node) (n : Nat) :
    node.after (.mark n) =
      { node with attestations := node.attestations.modify n (·.marked true) } := by
  rw [List.modify_eq_set_getElem?]
  simp only [Node.after, step, Node.mark]
  cases node.attestations[n]? <;> rfl

theorem tasks_perform (kept : o.Kept) (ho : node.objects[i]? = some o) (act : Act) :
    (node.perform i act).2.tasks =
      node.tasks ++ (o.spawned (o.performed node act)).map (Address.mk i) := by
  cases replaces_perform ho act with
  | same object _ tasks => rw [tasks, object, kept.spawned_self, List.map_nil, List.append_nil]
  | put _ tasks => exact tasks

end Node

end BeaconGossip
