import BeaconGossip.Proofs.Node.Perform
import BeaconGossip.Proofs.Node.Section
import BeaconGossip.Proofs.Registry

namespace BeaconGossip

open Node (Act)

namespace SubnetSet

variable (s : SubnetSet) (id : SubnetId) (r : Registry)

theorem moves_request : r.MovesGauges (s.request id r).2 := by
  unfold request
  split
  · exact .refl _ r
  · exact r.moves_gauge ..

theorem moves_release : r.MovesGauges (s.release id r).2 := by
  unfold release
  split
  · exact r.moves_gauge ..
  · exact .refl _ r

theorem moves_requests (ids : List SubnetId) :
    r.MovesGauges (ids.foldl (fun (s, r) id => SubnetSet.request s id r) (s, r)).2 := by
  induction ids generalizing s r with
  | nil => exact .refl _ r
  | cons id rest ih => exact (s.moves_request id r).trans (ih ..)

end SubnetSet

namespace Controller

variable {c c' : Controller} {r r' : Registry} {index : UInt64}

theorem moves_build {root : Root} {schedule schedule' : Schedule}
    (h : c.build root schedule r = .ok (c', schedule', r')) : r.MovesGauges r' := by
  obtain ⟨-, -, -, rfl⟩ | ⟨-, digest, -, -, rfl⟩ := build_ok h
  · exact .refl _ r'
  · exact r.moves_gauge ..

theorem moves_handOver (c : Controller) (r : Registry) : r.MovesGauges (c.handOver r).2 := by
  unfold handOver
  split
  · exact .refl _ r
  · exact SubnetSet.moves_requests ..

theorem moves_start {root : Root} {head : Bool} {schedule schedule' : Schedule}
    (h : c.start root head schedule r = .ok (c', schedule', r')) : r.MovesGauges r' := by
  obtain ⟨c₁, r₁, built, -, rfl⟩ := start_build h
  exact (moves_build built).trans (c₁.moves_handOver r₁)

theorem moves_requestSubnet (h : c.requestSubnet index r = .ok (c', r')) : r.MovesGauges r' := by
  unfold requestSubnet at h
  split at h
  · cases h
  · split at h
    · simp only [Except.ok.injEq, Prod.mk.injEq] at h
      exact h.2 ▸ .refl _ r
    · simp only [Except.ok.injEq, Prod.mk.injEq] at h
      exact h.2 ▸ SubnetSet.moves_request ..

theorem moves_releaseSubnet (h : c.releaseSubnet index r = .ok (c', r')) : r.MovesGauges r' := by
  unfold releaseSubnet at h
  split at h
  · cases h
  · split at h
    · simp only [Except.ok.injEq, Prod.mk.injEq] at h
      exact h.2 ▸ .refl _ r
    · simp only [Except.ok.injEq, Prod.mk.injEq] at h
      exact h.2 ▸ SubnetSet.moves_release ..

end Controller

/-- Whether the counters of the family are about what is published. -/
def Registry.Family.isPublishing : Registry.Family → Bool
  | published | publishFailures | publishRequests => true
  | _ => false

/-- What is entered for an act. -/
inductive Entry where
  | offer (cls : MessageClass)
  | publish (channel : Channel) (payload : Bytes)
  deriving DecidableEq

namespace Hub

def enter (h : Hub) : Entry → Hub
  | .offer cls => h.count (.publishRequests cls)
  | .publish channel payload => (channel.publish payload h).2

def enterAll (h : Hub) (entries : List Entry) : Hub := entries.foldl enter h

theorem enterAll_append (h : Hub) (entries entries' : List Entry) :
    h.enterAll (entries ++ entries') = (h.enterAll entries).enterAll entries' :=
  List.foldl_append

theorem moves_enter (h : Hub) (entry : Entry) :
    h.registry.Moves (·.isPublishing) (h.enter entry).registry := by
  cases entry with
  | offer cls => exact h.registry.moves_add (by rfl) 1
  | publish channel payload =>
    rw [enter, Channel.publish]
    split
    · exact h.registry.moves_add (by rfl) 1
    · exact .refl _ _

theorem moves_reportAt (h : Hub) (n : Nat) :
    h.registry.Moves (·.isPublishing) (h.reportAt n).registry := by
  unfold reportAt
  split
  · exact .refl _ _
  · dsimp only
    unfold reportOne
    split
    case h_1 r _ _ =>
      cases r with
      | died => exact .refl _ _
      | _ => exact h.registry.moves_add (by rfl) 1
    case h_2 => exact .refl _ _

/-- The same hub but for the gauges of requested subnets. -/
structure Agrees (h h' : Hub) : Prop where
  overlay : h'.overlay = h.overlay
  publications : h'.publications = h.publications
  arrivals : h'.arrivals = h.arrivals
  rejected : h'.rejected = h.rejected
  registry : h.registry.MovesGauges h'.registry

theorem Agrees.refl (h : Hub) : h.Agrees h := ⟨rfl, rfl, rfl, rfl, .refl _ _⟩

theorem Agrees.of_eq {h h' : Hub} (he : h' = h) : h.Agrees h' := he ▸ .refl h

theorem agrees_registry (h : Hub) {r : Registry} (hr : h.registry.MovesGauges r) :
    h.Agrees { h with registry := r } := ⟨rfl, rfl, rfl, rfl, hr⟩

end Hub

namespace TopicManager

def entries (m : TopicManager) (message : Message) : List Entry :=
  .offer m.cls :: if m.isActive then [.publish m.channel message.encode] else []

theorem entered_offer (m : TopicManager) (message : Message) (h : Hub) :
    (m.offer message h).2 = h.enterAll (m.entries message) := by
  unfold offer gossip entries
  split <;> rfl

def aggregateEntries (m : TopicManager) (a : GossipAttestation) : List Entry :=
  .offer m.cls ::
    match a.aggregate with
    | none => []
    | some aggregate =>
      if m.isActive && !a.gossiped then [.publish m.channel (Message.aggregate aggregate).encode]
      else []

theorem entered_offerAggregate (m : TopicManager) (a : GossipAttestation) (h : Hub) :
    (m.offerAggregate a h).2 = h.enterAll (m.aggregateEntries a) := by
  unfold offerAggregate aggregateEntries
  cases a.aggregate with
  | none => rfl
  | some aggregate =>
    cases hm : m.isActive with
    | false => simp [Hub.enterAll, Hub.enter]
    | true =>
      cases hg : a.gossiped <;>
        simp [GossipAttestation.mark, hg, hm, Hub.enterAll, Hub.enter, gossip]

end TopicManager

namespace SubnetSet

/-- The channel on which the attestation is published. -/
def channelFor (s : SubnetSet) (a : GossipAttestation) : Channel :=
  (s.channel? (a.subnet s.count)).getD (s.newChannel (a.subnet s.count))

def gossipEntries (s : SubnetSet) (a : GossipAttestation) : List Entry :=
  [.publish (s.channelFor a) (Message.attestation a.attestation).encode]

theorem entered_gossip (s : SubnetSet) (a : GossipAttestation) (h : Hub) :
    (s.gossip a h).2.2 = h.enterAll (s.gossipEntries a) := rfl

def entries (s : SubnetSet) (a : GossipAttestation) : List Entry :=
  .offer .attestation :: if s.takes a && !a.gossiped then s.gossipEntries a else []

theorem entered_offer (s : SubnetSet) (a : GossipAttestation) (h : Hub) :
    (s.offer a h).2.2 = h.enterAll (s.entries a) := by
  unfold offer entries takes
  cases ht : a.aggregate.isNone && s.enabled with
  | false => rfl
  | true => cases hg : a.gossiped <;> simp [GossipAttestation.mark, hg] <;> rfl

end SubnetSet

namespace Controller

def entries (c : Controller) (message : Message) : List Entry :=
  ((c.managers.bind (·.topic? message.cls)).map (·.entries message)).getD []

theorem entered_publish (c : Controller) (message : Message) (h : Hub) :
    (c.publish message h).2 = h.enterAll (c.entries message) := by
  unfold publish entries
  cases c.managers with
  | none => rfl
  | some m =>
    simp only [Option.bind_some]
    cases m.topic? message.cls with
    | none => rfl
    | some t => exact t.entered_offer message h

def attestationEntries (c : Controller) (a : GossipAttestation) : List Entry :=
  (c.managers.map fun m => m.attestation.entries a ++
    ((m.topic? .aggregate).map (·.aggregateEntries a)).getD []).getD []

/-- An attestation that the subnets have taken up is of no interest to the aggregate topic. -/
theorem aggregateEntries_offer (t : TopicManager) (s : SubnetSet) (a : GossipAttestation)
    (h : Hub) : t.aggregateEntries (s.offer a h).1 = t.aggregateEntries a := by
  rw [SubnetSet.offer_mark]
  split
  case isTrue ht =>
    rw [SubnetSet.takes, Bool.and_eq_true, Option.isNone_iff_eq_none] at ht
    simp [TopicManager.aggregateEntries, ht.1]
  case isFalse => rfl

theorem entered_publishAttestation (c : Controller) (a : GossipAttestation) (h : Hub) :
    (c.publishAttestation a h).2.2 = h.enterAll (c.attestationEntries a) := by
  unfold publishAttestation attestationEntries
  cases c.managers with
  | none => rfl
  | some m =>
    have first := m.attestation.entered_offer a h
    simp only [Option.map_some, Option.getD_some, Hub.enterAll_append, ← first]
    cases m.topic? .aggregate with
    | none => rfl
    | some t =>
      simp only [Option.map_some, Option.getD_some]
      rw [t.entered_offerAggregate, aggregateEntries_offer]

end Controller

namespace GossipObject

/-- What is entered for an act on the object. -/
def entries (o : GossipObject) (attestations : List GossipAttestation) : Act → List Entry
  | .publish message =>
    match o with
    | controller c => c.entries message
    | manager m => m.entries message
    | _ => []
  | .publishPayload payload =>
    match o with
    | channel c => [.publish c payload]
    | _ => []
  | .publishAttestation n =>
    match o, attestations[n]? with
    | controller c, some a => c.attestationEntries a
    | manager m, some a => m.aggregateEntries a
    | subnets s, some a => s.entries a
    | _, _ => []
  | .gossip n =>
    match o, attestations[n]? with
    | subnets s, some a => s.gossipEntries a
    | _, _ => []
  | _ => []

end GossipObject

namespace Node

variable {node : Node} {i : Nat} {o : GossipObject}

theorem entered_perform (ho : node.objects[i]? = some o) (act : Act) :
    (node.hub.enterAll (o.entries node.attestations act)).Agrees (node.perform i act).2.hub := by
  cases act with
  | start root head =>
    simp only [perform, Node.start, ho]
    cases o with
    | controller c =>
      dsimp only
      cases h : c.start root head node.schedule node.hub.registry with
      | error e => exact .refl _
      | ok p => exact node.hub.agrees_registry (Controller.moves_start h)
    | _ => exact .refl _
  | requestSubnet index =>
    simp only [perform, Node.requestSubnet, ho]
    cases o with
    | controller c =>
      dsimp only
      cases h : c.requestSubnet index node.hub.registry with
      | error e => exact .refl _
      | ok p => exact node.hub.agrees_registry (Controller.moves_requestSubnet h)
    | subnets s => exact node.hub.agrees_registry (s.moves_request ..)
    | _ => exact .refl _
  | releaseSubnet index =>
    simp only [perform, Node.releaseSubnet, ho]
    cases o with
    | controller c =>
      dsimp only
      cases h : c.releaseSubnet index node.hub.registry with
      | error e => exact .refl _
      | ok p => exact node.hub.agrees_registry (Controller.moves_releaseSubnet h)
    | subnets s => exact node.hub.agrees_registry (s.moves_release ..)
    | _ => exact .refl _
  | publish message =>
    simp only [perform, Node.publish, ho]
    cases o with
    | controller c => exact .of_eq (c.entered_publish message node.hub)
    | manager m => exact .of_eq (m.entered_offer message node.hub)
    | _ => exact .refl _
  | publishPayload payload =>
    simp only [perform, Node.publishPayload, ho]
    cases o <;> exact .refl _
  | publishAttestation n =>
    simp only [perform, Node.publishAttestation, ho, GossipObject.entries]
    cases node.attestations[n]? with
    | none => cases o <;> exact .refl _
    | some a =>
      cases o with
      | controller c => exact .of_eq (c.entered_publishAttestation a node.hub)
      | manager m => exact .of_eq (m.entered_offerAggregate a node.hub)
      | subnets s => exact .of_eq (s.entered_offer a node.hub)
      | channel c => exact .refl _
  | gossip n =>
    simp only [perform, Node.gossip, ho, GossipObject.entries]
    cases node.attestations[n]? with
    | none => cases o <;> exact .refl _
    | some a =>
      cases o with
      | subnets s => exact .of_eq (s.entered_gossip a node.hub)
      | _ => exact .refl _
  | _ =>
    simp only [perform, Node.stop, Node.stopOptimistic, Node.subscribe, Node.unsubscribe, ho]
    cases o <;> exact .refl _

theorem agrees_build (node : Node) (i : Nat) (root : Root) :
    node.hub.Agrees (node.build i root).2.hub := by
  unfold Node.build
  split
  · split
    · exact .refl _
    · rename_i hb
      exact node.hub.agrees_registry (Controller.moves_build hb)
  · exact .refl _

theorem agrees_handOver (node : Node) (i : Nat) : node.hub.Agrees (node.handOver i).hub := by
  unfold Node.handOver
  split
  · rename_i c _
    exact node.hub.agrees_registry (c.moves_handOver _)
  · exact .refl _

theorem agrees_join (node : Node) (i : Nat) (optimistic : Bool) :
    node.hub.Agrees (node.join i optimistic).hub := by
  unfold Node.join
  split <;> exact .refl _

end Node

end BeaconGossip
