import BeaconGossip.Proofs.Hub.Outcomes
import BeaconGossip.Proofs.Schedule

namespace BeaconGossip

open Node (Act Answer)

namespace Node

/-- The nodes agree in what is read of them when an object is asked for something. -/
structure Agree (node node' : Node) (act : Act) : Prop where
  schedule : node.schedule.Alike node'.schedule
  root : node'.schedule.genesisRoot = node.schedule.genesisRoot
  contents : node'.attestations.map (·.marked true) = node.attestations.map (·.marked true)
  offered : ∀ n, act = .publishAttestation n → node'.attestations[n]? = node.attestations[n]?

variable {node node' : Node} {act : Act}

theorem Agree.content (h : Agree node node' act) (n : Nat) :
    (node'.attestations[n]? = none ∧ node.attestations[n]? = none) ∨
      ∃ a a', node'.attestations[n]? = some a' ∧ node.attestations[n]? = some a ∧
        a'.marked true = a.marked true := by
  have same := congrArg (·[n]?) h.contents
  simp only [List.getElem?_map] at same
  cases ha : node.attestations[n]? with
  | none =>
    rw [ha, Option.map_none, Option.map_eq_none_iff] at same
    exact .inl ⟨same, rfl⟩
  | some a =>
    rw [ha, Option.map_some] at same
    obtain ⟨a', ha', he⟩ := Option.map_eq_some_iff.1 same
    exact .inr ⟨a, a', ha', rfl, he⟩

end Node

namespace SubnetSet

variable (s : SubnetSet) (id : SubnetId)

theorem request_fst (r r' : Registry) : (s.request id r').1 = (s.request id r).1 := by
  unfold request
  split <;> rfl

theorem requests_fst (ids : List SubnetId) (r r' : Registry) :
    (ids.foldl (fun (s, r) id => SubnetSet.request s id r) (s, r')).1 =
      (ids.foldl (fun (s, r) id => SubnetSet.request s id r) (s, r)).1 := by
  induction ids generalizing s r r' with
  | nil => rfl
  | cons id rest ih =>
    have first : s.request id r' = ((s.request id r).1, (s.request id r').2) :=
      Prod.ext (s.request_fst id r r') rfl
    rw [List.foldl_cons, List.foldl_cons]
    dsimp only
    rw [first]
    exact ih ..

theorem release_fst (r r' : Registry) : (s.release id r').1 = (s.release id r).1 := by
  unfold release
  split <;> rfl

theorem gossip_set {a a' : GossipAttestation} (same : a'.marked true = a.marked true)
    (h h' : Hub) : (s.gossip a' h').2.1 = (s.gossip a h).2.1 := by
  have subnet : a'.subnet s.count = a.subnet s.count := congrArg (·.subnet s.count) same
  exact congrArg (s.withChannel · fun c => c) subnet

theorem gossipOutput_marked {a a' : GossipAttestation} (same : a'.marked true = a.marked true) :
    s.gossipOutput a' = s.gossipOutput a := by
  have subnet : a'.subnet s.count = a.subnet s.count := congrArg (·.subnet s.count) same
  have attestation : a'.attestation = a.attestation := congrArg (·.attestation) same
  rw [gossipOutput, gossipOutput, subnet, attestation]

theorem gossip_congr {a a' : GossipAttestation} (same : a'.marked true = a.marked true)
    {h' : Hub} (h : Hub)
    (calls : ∀ entry ∈ s.gossipOutput a,
      h'.overlay.callsOn entry.1 = h.overlay.callsOn entry.1) :
    (s.gossip a' h').1 = (s.gossip a h).1 := by
  have subnet : a'.subnet s.count = a.subnet s.count := congrArg (·.subnet s.count) same
  have attestation : a'.attestation = a.attestation := congrArg (·.attestation) same
  rw [gossipOutput] at calls
  simp only [gossip, subnet, attestation]
  exact Channel.publish_congr _ _ h calls

theorem offer_set (a : GossipAttestation) (h h' : Hub) :
    (s.offer a h').2.1 = (s.offer a h).2.1 := by
  unfold offer
  split
  · cases a.mark with
    | mk first marked =>
      cases first with
      | true => exact s.gossip_set rfl _ _
      | false => rfl
  · rfl

theorem performed_congr {node node' : Node} {act : Act} (agree : Node.Agree node node' act) :
    s.performed node' act = s.performed node act := by
  cases act with
  | requestSubnet index => exact s.request_fst ..
  | releaseSubnet index => exact s.release_fst ..
  | publishAttestation n =>
    simp only [performed, agree.offered n rfl]
    cases node.attestations[n]? with
    | none => rfl
    | some a => exact s.offer_set ..
  | gossip n =>
    obtain ⟨ha', ha⟩ | ⟨a, a', ha', ha, same⟩ := agree.content n
    · simp only [performed, ha, ha']
    · simp only [performed, ha, ha']
      exact s.gossip_set same _ _
  | _ => rfl

end SubnetSet

namespace Controller

variable (c : Controller)

theorem handOver_fst (r r' : Registry) : (c.handOver r').1 = (c.handOver r).1 := by
  cases hm : c.managers with
  | none => simp only [handOver, hm]
  | some m => rw [handOver_started hm, handOver_started hm, m.attestation.requests_fst c.waiting r]

theorem start_congr {s s' : Schedule} (alike : s.Alike s') (root : s'.genesisRoot = s.genesisRoot)
    (given : Root) (head : Bool) (r r' : Registry) :
    (c.start given head s' r').map (·.1) = (c.start given head s r).map (·.1) := by
  cases hm : c.managers with
  | some m =>
    rw [start_started hm, start_started hm, c.handOver_fst r r']
    rfl
  | none =>
    have digest := alike.digestAt root c.fork.epoch
    rw [start_unstarted hm, start_unstarted hm]
    generalize s.digestAt c.fork.epoch = p at *
    generalize s'.digestAt c.fork.epoch = p' at *
    obtain ⟨d, s₁⟩ := p
    obtain ⟨d', s₁'⟩ := p'
    obtain rfl : d' = d := digest
    cases d' with
    | error e => rfl
    | ok digest =>
      have built := (c.built given digest).handOver_fst
        (r.touch (SubnetSet.fresh c.settings digest).gauge)
        (r'.touch (SubnetSet.fresh c.settings digest).gauge)
      simp only [built]
      rfl

theorem requestSubnet_congr (index : UInt64) (r r' : Registry) :
    (c.requestSubnet index r').map (·.1) = (c.requestSubnet index r).map (·.1) := by
  unfold requestSubnet
  cases SubnetId.check index c.settings.subnetCount with
  | error e => rfl
  | ok id =>
    cases c.managers with
    | none => rfl
    | some m =>
      simp only [m.attestation.request_fst id r r']
      rfl

theorem releaseSubnet_congr (index : UInt64) (r r' : Registry) :
    (c.releaseSubnet index r').map (·.1) = (c.releaseSubnet index r).map (·.1) := by
  unfold releaseSubnet
  cases SubnetId.check index c.settings.subnetCount with
  | error e => rfl
  | ok id =>
    cases c.managers with
    | none => rfl
    | some m =>
      simp only [m.attestation.release_fst id r r']
      rfl

theorem performed_congr {node node' : Node} {act : Act} (agree : Node.Agree node node' act) :
    c.performed node' act = c.performed node act := by
  cases act with
  | start given head =>
    have eq (node : Node) : c.performed node (.start given head) =
        ((c.start given head node.schedule node.hub.registry).map (·.1)).toOption.getD c := by
      simp only [performed]
      cases c.start given head node.schedule node.hub.registry <;> rfl
    rw [eq, eq, c.start_congr agree.schedule agree.root]
  | requestSubnet index =>
    have eq (node : Node) : c.performed node (.requestSubnet index) =
        ((c.requestSubnet index node.hub.registry).map (·.1)).toOption.getD c := by
      simp only [performed]
      cases c.requestSubnet index node.hub.registry <;> rfl
    rw [eq, eq, c.requestSubnet_congr]
  | releaseSubnet index =>
    have eq (node : Node) : c.performed node (.releaseSubnet index) =
        ((c.releaseSubnet index node.hub.registry).map (·.1)).toOption.getD c := by
      simp only [performed]
      cases c.releaseSubnet index node.hub.registry <;> rfl
    rw [eq, eq, c.releaseSubnet_congr]
  | publishAttestation n =>
    simp only [performed, agree.offered n rfl]
    cases node.attestations[n]? with
    | none => rfl
    | some a =>
      dsimp only
      rw [publishAttestation_controller, publishAttestation_controller]
      simp only [SubnetSet.offer_set _ a node.hub node'.hub]
  | _ => rfl

end Controller

namespace GossipObject

variable (o : GossipObject) {node node' : Node} {act : Act}

theorem performed_congr (agree : Node.Agree node node' act) :
    o.performed node' act = o.performed node act := by
  cases o with
  | controller c => exact congrArg controller (c.performed_congr agree)
  | subnets s => exact congrArg subnets (s.performed_congr agree)
  | _ => rfl

theorem output_congr (agree : Node.Agree node node' act) :
    o.output node'.attestations act = o.output node.attestations act := by
  cases act with
  | publishAttestation n => simp only [output, agree.offered n rfl]
  | gossip n =>
    obtain ⟨ha', ha⟩ | ⟨a, a', ha', ha, same⟩ := agree.content n
    · simp only [output, ha, ha']
    · simp only [output, ha, ha']
      cases o with
      | subnets s => exact s.gossipOutput_marked same
      | _ => rfl
  | _ => rfl

end GossipObject

section Topics

variable {entry : String × Bytes} {a : GossipAttestation}

theorem Channel.topic_of_mem_output {c : Channel} {payload : Bytes}
    (h : entry ∈ c.output payload) : entry.1 = c.topic := by
  rw [output] at h
  split at h
  · cases h
  · rw [List.mem_singleton.1 h]

theorem TopicManager.topic_of_mem_output {m : TopicManager} {message : Message}
    (h : entry ∈ m.output message) : entry.1 = m.channel.topic := by
  rw [output] at h
  split at h
  · exact Channel.topic_of_mem_output h
  · cases h

theorem TopicManager.topic_of_mem_aggregateOutput {m : TopicManager}
    (h : entry ∈ m.aggregateOutput a) : entry.1 = m.channel.topic := by
  rw [aggregateOutput] at h
  split at h
  · cases h
  · split at h
    · exact Channel.topic_of_mem_output h
    · cases h

theorem SubnetSet.Ordered.channel_of_mem_gossipOutput {s : SubnetSet} (ordered : s.Ordered)
    (h : entry ∈ s.gossipOutput a) (hub : Hub) :
    ∃ id d, (s.gossip a hub).2.1.channel? id = some d ∧ d.topic = entry.1 := by
  refine ⟨a.subnet s.count, (s.channel? (a.subnet s.count)).getD (s.newChannel _), ?_,
    (Channel.topic_of_mem_output h).symm⟩
  exact (ordered.channel?_withChannel _ _ _).trans (if_pos rfl)

theorem SubnetSet.Ordered.channel_of_mem_output {s : SubnetSet} (ordered : s.Ordered)
    (h : entry ∈ s.output a) (hub : Hub) :
    ∃ id d, (s.offer a hub).2.1.channel? id = some d ∧ d.topic = entry.1 := by
  rw [output] at h
  split at h
  case isTrue taken =>
    rw [Bool.and_eq_true, Bool.not_eq_true', takes] at taken
    obtain ⟨taken, unmarked⟩ := taken
    simp only [offer, if_pos taken, GossipAttestation.mark, unmarked, Bool.not_false]
    exact ordered.channel_of_mem_gossipOutput h _
  case isFalse => cases h

theorem Managers.channel_of_topic? {m : Managers} {cls : MessageClass} {t : TopicManager}
    (ht : m.topic? cls = some t) (topic : entry.1 = t.channel.topic) :
    ∃ lane d, m.lanes.lookup lane = some d ∧ d.topic = entry.1 := by
  refine ⟨.ofClass cls, t.channel, ?_, topic.symm⟩
  rw [lookup_ofClass, ht, Option.map_some]

namespace GossipObject

/-- The object has a channel of the topic. -/
def HasTopic (o : GossipObject) (topic : String) : Prop :=
  ∃ lane d, o.channel? lane = some d ∧ d.topic = topic

theorem hasTopic_sole {o : GossipObject} {d : Channel} (lanes : o.lanes = [(.sole, d)])
    {topic : String} (ht : topic = d.topic) : o.HasTopic topic :=
  ⟨.sole, d, (channel?_sole lanes .sole).trans (if_pos rfl), ht.symm⟩

theorem hasTopic_subnets {s : SubnetSet} {topic : String}
    (found : ∃ id d, s.channel? id = some d ∧ d.topic = topic) : (subnets s).HasTopic topic := by
  obtain ⟨id, d, hd, ht⟩ := found
  exact ⟨.subnet id, d, (s.lookup_lanes id).trans hd, ht⟩

theorem hasTopic_controller {c : Controller} {m : Managers} (hm : c.managers = some m)
    {topic : String} (found : ∃ lane d, m.lanes.lookup lane = some d ∧ d.topic = topic) :
    (controller c).HasTopic topic := by
  obtain ⟨lane, d, hd, ht⟩ := found
  exact ⟨lane, d, (channel?_started hm lane).trans hd, ht⟩

end GossipObject

namespace Controller

open GossipObject (controller hasTopic_controller)

variable {c : Controller}

theorem hasTopic_of_mem_output {message : Message} (h : entry ∈ c.output message) :
    (controller c).HasTopic entry.1 := by
  cases hm : c.managers with
  | none => simp [output, hm] at h
  | some m =>
    simp only [output, hm, Option.map_some, Option.getD_some, Managers.output] at h
    cases ht : m.topic? message.cls with
    | none => simp [ht] at h
    | some t =>
      rw [ht] at h
      exact hasTopic_controller hm
        (Managers.channel_of_topic? ht (TopicManager.topic_of_mem_output h))

theorem hasTopic_of_mem_attestationOutput
    (ordered : ∀ m, c.managers = some m → m.attestation.Ordered)
    (h : entry ∈ c.attestationOutput a) (hub : Hub) :
    (controller (c.publishAttestation a hub).2.1).HasTopic entry.1 := by
  cases hm : c.managers with
  | none => simp [attestationOutput, hm] at h
  | some m =>
    have hm' : (c.publishAttestation a hub).2.1.managers =
        some { m with attestation := (m.attestation.offer a hub).2.1 } := by
      rw [publishAttestation_controller, hm, Option.map_some]
    simp only [attestationOutput, hm, Option.map_some, Option.getD_some,
      Managers.attestationOutput, List.mem_append] at h
    apply hasTopic_controller hm'
    rcases h with h | h
    · obtain ⟨id, d, hd, topic⟩ := (ordered m hm).channel_of_mem_output h hub
      exact ⟨.subnet id, d, (Managers.lookup_subnet _ id).trans hd, topic⟩
    · cases ht : m.topic? .aggregate with
      | none => simp [ht] at h
      | some t =>
        rw [ht] at h
        exact Managers.channel_of_topic? ht (TopicManager.topic_of_mem_aggregateOutput h)

end Controller

/-- Whatever an object puts out goes out on the topic of a channel that it has by then. -/
theorem GossipObject.Kept.hasTopic_of_mem_output {o : GossipObject} (kept : o.Kept) (node : Node)
    (act : Act) (h : entry ∈ o.output node.attestations act) :
    (o.performed node act).HasTopic entry.1 := by
  cases act with
  | publish message =>
    cases o with
    | controller c => exact Controller.hasTopic_of_mem_output h
    | manager m => exact hasTopic_sole rfl (TopicManager.topic_of_mem_output h)
    | _ => cases h
  | publishPayload payload =>
    cases o with
    | channel c => exact hasTopic_sole rfl (Channel.topic_of_mem_output h)
    | _ => cases h
  | publishAttestation n =>
    cases ha : node.attestations[n]? with
    | none => cases o <;> simp [output, ha] at h
    | some a =>
      simp only [output, ha] at h
      cases o with
      | controller c =>
        simp only [GossipObject.performed, Controller.performed, ha]
        exact Controller.hasTopic_of_mem_attestationOutput kept.ordered h node.hub
      | manager m => exact hasTopic_sole rfl (TopicManager.topic_of_mem_aggregateOutput h)
      | subnets s =>
        simp only [GossipObject.performed, SubnetSet.performed, ha]
        exact hasTopic_subnets ((SubnetSet.Kept.ordered kept).channel_of_mem_output h node.hub)
      | channel c => cases h
  | gossip n =>
    cases ha : node.attestations[n]? with
    | none => cases o <;> simp [output, ha] at h
    | some a =>
      simp only [output, ha] at h
      cases o with
      | subnets s =>
        simp only [GossipObject.performed, SubnetSet.performed, ha]
        exact hasTopic_subnets
          ((SubnetSet.Kept.ordered kept).channel_of_mem_gossipOutput h node.hub)
      | _ => cases h
  | _ => cases h

end Topics

namespace Node

variable {node node' : Node} {i : Nat} {act : Act}

/-- The answer to an act goes by what is read and by the calls made before on the topics of what is
put out. -/
theorem Agree.answer {o : GossipObject} (agree : Agree node node' act)
    (ho : node.objects[i]? = some o) (ho' : node'.objects[i]? = some o)
    (same : ∀ entry ∈ o.output node.attestations act,
      node'.hub.overlay.callsOn entry.1 = node.hub.overlay.callsOn entry.1) :
    (node'.perform i act).1 = (node.perform i act).1 := by
  cases act with
  | start given head =>
    simp only [perform, Node.start, ho, ho']
    cases o with
    | controller c =>
      have started := c.start_congr agree.schedule agree.root given head
        node.hub.registry node'.hub.registry
      dsimp only
      generalize c.start given head node.schedule node.hub.registry = p at started
      generalize c.start given head node'.schedule node'.hub.registry = p' at started
      rcases p with e | ⟨c₁, _⟩ <;> rcases p' with e' | ⟨c₁', _⟩ <;> cases started <;> rfl
    | _ => rfl
  | requestSubnet index =>
    simp only [perform, Node.requestSubnet, ho, ho']
    cases o with
    | controller c =>
      have asked := c.requestSubnet_congr index node.hub.registry node'.hub.registry
      dsimp only
      generalize c.requestSubnet index node.hub.registry = p at asked
      generalize c.requestSubnet index node'.hub.registry = p' at asked
      rcases p with e | ⟨c₁, _⟩ <;> rcases p' with e' | ⟨c₁', _⟩ <;> cases asked <;> rfl
    | _ => rfl
  | releaseSubnet index =>
    simp only [perform, Node.releaseSubnet, ho, ho']
    cases o with
    | controller c =>
      have asked := c.releaseSubnet_congr index node.hub.registry node'.hub.registry
      dsimp only
      generalize c.releaseSubnet index node.hub.registry = p at asked
      generalize c.releaseSubnet index node'.hub.registry = p' at asked
      rcases p with e | ⟨c₁, _⟩ <;> rcases p' with e' | ⟨c₁', _⟩ <;> cases asked <;> rfl
    | _ => rfl
  | publish message =>
    simp only [perform, Node.publish, ho, ho']
    cases o with
    | controller c => exact congrArg (Answer.publishing ∘ some) (c.publish_congr message _ same)
    | manager m => exact congrArg (Answer.publishing ∘ some) (m.offer_congr message _ same)
    | _ => rfl
  | publishPayload payload =>
    simp only [perform, Node.publishPayload, ho, ho']
    cases o with
    | channel c => exact congrArg (Answer.publishing ∘ some) (c.publish_congr payload _ same)
    | _ => rfl
  | gossip n =>
    obtain ⟨ha', ha⟩ | ⟨a, a', ha', ha, marks⟩ := agree.content n
    · simp only [perform, Node.gossip, ho, ho', ha, ha']
    · simp only [perform, Node.gossip, ho, ho', ha, ha']
      cases o with
      | subnets s =>
        simp only [GossipObject.output, ha] at same
        exact congrArg (Answer.publishing ∘ some) (s.gossip_congr marks _ same)
      | _ => rfl
  | _ => rfl

end Node

end BeaconGossip
