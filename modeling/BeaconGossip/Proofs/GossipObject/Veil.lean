import BeaconGossip.Proofs.Node.Perform

namespace BeaconGossip

open Node (Act)

namespace Channel

/-- The channel as its requests alone would have left it. -/
def asked (c : Channel) : Channel :=
  { c with confirmed := false, settled := 0, queued := c.generation, change := none }

def veil (A : String) (c : Channel) : Channel := if c.topic = A then c.asked else c

variable (A : String) (c : Channel)

theorem veil_on {A : String} {c : Channel} (h : c.topic = A) : c.veil A = c.asked := if_pos h

theorem veil_beyond {A : String} {c : Channel} (h : c.topic ≠ A) : c.veil A = c := if_neg h

@[simp] theorem veil_endpoint : (c.veil A).endpoint = c.endpoint := by
  unfold veil
  split <;> rfl

@[simp] theorem veil_topic : (c.veil A).topic = c.topic :=
  congrArg Endpoint.topic (veil_endpoint A c)

@[simp] theorem veil_cls : (c.veil A).cls = c.cls := congrArg Endpoint.cls (veil_endpoint A c)

@[simp] theorem veil_limit : (c.veil A).limit = c.limit := by
  unfold veil
  split <;> rfl

@[simp] theorem veil_wanted : (c.veil A).wanted = c.wanted := by
  unfold veil
  split <;> rfl

theorem veil_request (wanted : Bool) : (c.request wanted).veil A = (c.veil A).request wanted := by
  have ht : (c.request wanted).topic = c.topic := rfl
  unfold veil
  rw [ht]
  split <;> rfl

theorem veil_requestAll (requests : List Bool) :
    (c.requestAll requests).veil A = (c.veil A).requestAll requests := by
  induction requests generalizing c with
  | nil => rfl
  | cons wanted rest ih =>
    have hrest := ih (c.request wanted)
    rw [veil_request] at hrest
    exact hrest

@[simp] theorem veil_fresh (e : Endpoint) (limit : Nat) :
    (fresh e limit).veil A = fresh e limit := by
  unfold veil
  split <;> rfl

theorem output_veil (payload : Bytes) : (c.veil A).output payload = c.output payload := by
  simp only [output, veil_limit, veil_topic]

theorem performed_veil (act : Act) : (c.veil A).performed act = (c.performed act).veil A := by
  cases act with
  | subscribe => exact (veil_request A c true).symm
  | unsubscribe => exact (veil_request A c false).symm
  | _ => rfl

theorem unfinished_requestAll (requests : List Bool) :
    (c.requestAll requests).unfinished = c.unfinished + requests.length := by
  induction requests generalizing c with
  | nil => rfl
  | cons wanted rest ih =>
    have hrequest : (c.request wanted).unfinished = c.unfinished + 1 := Nat.add_right_comm ..
    have hrest := ih (c.request wanted)
    rw [hrequest] at hrest
    exact hrest.trans (by rw [List.length_cons]; omega)

/-- Requests spawn as many tasks under the veil. -/
theorem Grown.spawned {c' : Channel} {before : Option Channel} (h : Grown before (some c')) :
    (c'.veil A).unfinished - ((before.map (veil A)).map (·.unfinished)).getD 0 =
      c'.unfinished - (before.map (·.unfinished)).getD 0 := by
  obtain ⟨e, limit, h⟩ := h
  cases h with
  | opened requests =>
    rw [veil_requestAll, veil_fresh]
    rfl
  | kept c requests =>
    rw [veil_requestAll, unfinished_requestAll, unfinished_requestAll]
    simp only [Option.map_some, Option.getD_some, Nat.add_sub_cancel_left]

end Channel

open Channel

namespace SubnetSet

def veil (A : String) (s : SubnetSet) : SubnetSet :=
  { s with channels := s.channels.map fun (id, c) => (id, c.veil A) }

variable (A : String) (s : SubnetSet) (id : SubnetId)

theorem channel?_veil : (s.veil A).channel? id = (s.channel? id).map (Channel.veil A) :=
  lookup_mapValues (fun _ c => c.veil A) id

theorem upsert_veil {g : Channel → Channel} (hg : ∀ c, (g c).veil A = g (c.veil A))
    {start : Channel} (hs : start.veil A = start) (channels : List (SubnetId × Channel)) :
    upsert id start g (channels.map fun (x, c) => (x, c.veil A)) =
      (upsert id start g channels).map fun (x, c) => (x, c.veil A) := by
  have hopen : g start = (g start).veil A := by rw [hg, hs]
  induction channels with
  | nil =>
    simp only [upsert, List.map_nil, List.map_cons]
    rw [← hopen]
  | cons entry rest ih =>
    obtain ⟨x, c⟩ := entry
    simp only [upsert, List.map_cons]
    split
    · rw [List.map_cons, List.map_cons, ← hopen]
    · split
      · rw [List.map_cons, hg]
      · rw [ih, List.map_cons]

theorem withChannel_veil {g : Channel → Channel} (hg : ∀ c, (g c).veil A = g (c.veil A)) :
    (s.veil A).withChannel id g = (s.withChannel id g).veil A := by
  have hs : (s.newChannel id).veil A = s.newChannel id := veil_fresh ..
  exact congrArg (fun channels => { s with channels := channels })
    (upsert_veil A id hg hs s.channels)

theorem onChannel_veil {g g' : Channel → Channel} (hg : ∀ c, (g c).veil A = g' (c.veil A)) :
    (s.veil A).onChannel id g' = (s.onChannel id g).veil A := by
  refine congrArg (fun channels => { s with channels := channels }) ?_
  rw [veil, List.map_map, onChannel, List.map_map]
  refine List.map_congr_left fun entry _ => ?_
  simp only [Function.comp_apply]
  split
  · rw [hg]
  · rfl

theorem request_veil (r r' : Registry) :
    ((s.veil A).request id r').1 = (s.request id r).1.veil A := by
  have hr : (s.veil A).requested = s.requested := rfl
  have he : (s.veil A).enabled = s.enabled := rfl
  unfold request
  rw [hr, he]
  split
  · rfl
  · simp only
    split
    · exact withChannel_veil A { s with requested := id.insert s.requested } id
        fun c => c.veil_request A true
    · rfl

theorem requests_veil (ids : List SubnetId) (r r' : Registry) :
    (ids.foldl (fun (s, r) id => SubnetSet.request s id r) (s.veil A, r')).1 =
      (ids.foldl (fun (s, r) id => SubnetSet.request s id r) (s, r)).1.veil A := by
  induction ids generalizing s r r' with
  | nil => rfl
  | cons id rest ih =>
    have hrest := ih (s.request id r).1 (s.request id r).2 ((s.veil A).request id r').2
    rw [← request_veil A s id r r'] at hrest
    exact hrest

theorem release_veil (r r' : Registry) :
    ((s.veil A).release id r').1 = (s.release id r).1.veil A := by
  have hr : (s.veil A).requested = s.requested := rfl
  unfold release
  rw [hr]
  split
  · exact onChannel_veil A { s with requested := s.requested.filter (· ≠ id) } id
      fun c => c.veil_request A false
  · rfl

theorem joinAll_veil (ids : List SubnetId) :
    ids.foldl (fun s id => s.withChannel id Channel.subscribe) (s.veil A) =
      (ids.foldl (fun s id => s.withChannel id Channel.subscribe) s).veil A := by
  induction ids generalizing s with
  | nil => rfl
  | cons id rest ih =>
    have hid := withChannel_veil (g := Channel.subscribe) A s id fun c => c.veil_request A true
    rw [List.foldl_cons, List.foldl_cons, ← ih, hid]

theorem subscribe_veil : (s.veil A).subscribe = s.subscribe.veil A :=
  joinAll_veil A { s with enabled := true } s.requested

theorem unsubscribe_veil : (s.veil A).unsubscribe = s.unsubscribe.veil A := by
  refine congrArg (fun channels => { s with enabled := false, channels := channels }) ?_
  rw [veil, SubnetSet.unsubscribe, List.map_map, List.map_map]
  refine List.map_congr_left fun entry _ => ?_
  exact congrArg (Prod.mk entry.1) (entry.2.veil_request A false).symm

theorem gossip_veil (a : GossipAttestation) (h h' : Hub) :
    ((s.veil A).gossip a h').2.1 = (s.gossip a h).2.1.veil A :=
  withChannel_veil A s _ fun _ => rfl

theorem offer_veil (a : GossipAttestation) (h h' : Hub) :
    ((s.veil A).offer a h').2.1 = (s.offer a h).2.1.veil A := by
  have he : (s.veil A).enabled = s.enabled := rfl
  unfold offer
  simp only [he]
  split
  · cases hm : a.mark with
    | mk first marked =>
      cases first with
      | true => exact gossip_veil A s a _ _
      | false => rfl
  · rfl

theorem gossipOutput_veil (a : GossipAttestation) :
    (s.veil A).gossipOutput a = s.gossipOutput a := by
  have hc : (s.veil A).count = s.count := rfl
  have hn : (s.veil A).newChannel = s.newChannel := rfl
  rw [gossipOutput, gossipOutput, channel?_veil, hc, hn]
  cases s.channel? (a.subnet s.count) with
  | none => rfl
  | some c => exact output_veil A c _

theorem output_veil (a : GossipAttestation) : (s.veil A).output a = s.output a := by
  have ht : (s.veil A).takes a = s.takes a := rfl
  rw [output, output, ht, gossipOutput_veil]

theorem performed_veil {node node' : Node} (attestations : node'.attestations = node.attestations)
    (act : Act) : (s.veil A).performed node' act = (s.performed node act).veil A := by
  cases act with
  | subscribe => exact subscribe_veil A s
  | unsubscribe => exact unsubscribe_veil A s
  | requestSubnet index => exact request_veil ..
  | releaseSubnet index => exact release_veil ..
  | publishAttestation a =>
    simp only [performed, attestations]
    cases node.attestations[a]? with
    | none => rfl
    | some att => exact offer_veil ..
  | gossip a =>
    simp only [performed, attestations]
    cases node.attestations[a]? with
    | none => rfl
    | some att => exact gossip_veil ..
  | _ => rfl

end SubnetSet

namespace TopicManager

def veil (A : String) (m : TopicManager) : TopicManager := ⟨m.channel.veil A⟩

variable (A : String) (m : TopicManager)

@[simp] theorem veil_cls : (m.veil A).cls = m.cls := m.channel.veil_cls A

@[simp] theorem veil_isActive : (m.veil A).isActive = m.isActive := m.channel.veil_wanted A

theorem output_veil (message : Message) : (m.veil A).output message = m.output message := by
  rw [output, output, veil_isActive, veil, Channel.output_veil]

theorem takes_veil (a : GossipAttestation) : (m.veil A).takes a = m.takes a := by
  rw [takes, takes, veil_isActive]

theorem aggregateOutput_veil (a : GossipAttestation) :
    (m.veil A).aggregateOutput a = m.aggregateOutput a := by
  have hc : (m.veil A).channel = m.channel.veil A := rfl
  simp only [aggregateOutput, veil_isActive, hc, Channel.output_veil]

end TopicManager

namespace Managers

def veil (A : String) (m : Managers) : Managers :=
  { m with attestation := m.attestation.veil A, topics := m.topics.map (·.veil A) }

variable (A : String) (m : Managers)

theorem topic?_veil (c : MessageClass) : (m.veil A).topic? c = (m.topic? c).map (·.veil A) :=
  topic?_map (fun t => t.veil_cls A) c

theorem fresh_veil (settings : Settings) (info : ForkInfo) (digest : ForkDigest) :
    (fresh settings info digest).veil A = fresh settings info digest := by
  refine congrArg (fun topics => Managers.mk info digest (.fresh settings digest) topics) ?_
  rw [fresh, List.map_map]
  refine List.map_congr_left fun c _ => ?_
  exact congrArg TopicManager.mk (veil_fresh ..)

theorem topics_veil (concerned : MessageClass → Bool) (wanted : Bool) (topics : List TopicManager) :
    ((topics.map (·.veil A)).map fun t =>
        if concerned t.cls then ⟨t.channel.request wanted⟩ else t) =
      (topics.map fun t : TopicManager =>
        if concerned t.cls then ⟨t.channel.request wanted⟩ else t).map (·.veil A) := by
  rw [List.map_map, List.map_map]
  refine List.map_congr_left fun t _ => ?_
  simp only [Function.comp_apply, TopicManager.veil_cls]
  split
  · exact congrArg TopicManager.mk (t.channel.veil_request A wanted).symm
  · rfl

theorem subscribe_veil (optimistic : Bool) :
    (m.veil A).subscribe optimistic = (m.subscribe optimistic).veil A := by
  have topics := topics_veil A (mayRun optimistic) true m.topics
  have attestation := m.attestation.subscribe_veil A
  unfold subscribe veil
  simp only
  congr 1
  split
  · exact attestation
  · rfl

theorem unsubscribe_veil (all : Bool) :
    (m.veil A).unsubscribe all = (m.unsubscribe all).veil A := by
  have topics := topics_veil A (fun c => all || !mayRun true c) false m.topics
  have attestation := m.attestation.unsubscribe_veil A
  unfold unsubscribe veil
  simp only
  congr 1
  split
  · exact attestation
  · rfl

theorem onLane_veil (lane : Lane) (c : Channel) :
    (m.veil A).onLane lane (fun _ => c.veil A) = (m.onLane lane fun _ => c).veil A := by
  cases lane with
  | sole => rfl
  | subnet id =>
    have hs : ((m.attestation.veil A).onChannel id fun _ => c.veil A) =
        (m.attestation.onChannel id fun _ => c).veil A :=
      m.attestation.onChannel_veil A id fun _ => rfl
    exact congrArg (fun s => { m.veil A with attestation := s }) hs
  | ofClass k =>
    refine congrArg (fun topics => { m.veil A with topics := topics }) ?_
    rw [veil, List.map_map, onLane, List.map_map]
    refine List.map_congr_left fun t _ => ?_
    simp only [Function.comp_apply, TopicManager.veil_cls]
    split <;> rfl

theorem output_veil (message : Message) : (m.veil A).output message = m.output message := by
  rw [output, output, topic?_veil, Option.map_map]
  simp only [Function.comp_def, TopicManager.output_veil]

theorem takes_veil (a : GossipAttestation) : (m.veil A).takes a = m.takes a := by
  have hs : (m.veil A).attestation.takes a = m.attestation.takes a := rfl
  rw [takes, takes, hs, topic?_veil, Option.any_map]
  simp only [TopicManager.takes_veil]

theorem attestationOutput_veil (a : GossipAttestation) :
    (m.veil A).attestationOutput a = m.attestationOutput a := by
  have hs : (m.veil A).attestation.output a = m.attestation.output a :=
    m.attestation.output_veil A a
  rw [attestationOutput, attestationOutput, hs, topic?_veil, Option.map_map]
  simp only [Function.comp_def, TopicManager.aggregateOutput_veil]

theorem onLane_self {m : Managers} (ordered : m.attestation.Ordered)
    (single : ∀ t ∈ m.topics, m.topic? t.cls = some t) {lane : Lane} {c : Channel}
    (hc : m.lanes.lookup lane = some c) : (m.onLane lane fun _ => c) = m := by
  cases lane with
  | sole => rfl
  | subnet id =>
    rw [lookup_subnet] at hc
    exact congrArg (fun s => { m with attestation := s }) (ordered.onChannel_self hc)
  | ofClass k =>
    refine congrArg (fun topics => { m with topics := topics }) ?_
    refine (List.map_congr_left ?_).trans (List.map_id m.topics)
    intro t ht
    split
    case isTrue hk =>
      rw [lookup_ofClass, ← hk, single t ht, Option.map_some, Option.some.injEq] at hc
      rw [← hc]
      rfl
    case isFalse => rfl

end Managers

namespace Controller

def veil (A : String) (c : Controller) : Controller :=
  { c with managers := c.managers.map (·.veil A) }

variable (A : String) (c : Controller)

theorem handOver_veil (r r' : Registry) : ((c.veil A).handOver r').1 = (c.handOver r).1.veil A := by
  cases hm : c.managers with
  | none =>
    have hm' : (c.veil A).managers = none := by rw [veil, hm, Option.map_none]
    simp only [handOver, hm, hm']
  | some m =>
    have hm' : (c.veil A).managers = some (m.veil A) := by rw [veil, hm, Option.map_some]
    rw [handOver_started hm, handOver_started hm']
    exact congrArg
      (fun s => { c with managers := some { m.veil A with attestation := s }, waiting := [] })
      (m.attestation.requests_veil A c.waiting r r')

theorem map_veil {g g' : Managers → Managers} (hg : ∀ m : Managers, g' (m.veil A) = (g m).veil A) :
    { c.veil A with managers := (c.veil A).managers.map g' } =
      ({ c with managers := c.managers.map g } : Controller).veil A := by
  refine congrArg (fun managers => { c with managers := managers }) ?_
  rw [veil, Option.map_map, Option.map_map]
  congr 1
  funext m
  exact hg m

theorem subscribe_veil (optimistic : Bool) :
    (c.veil A).subscribe optimistic = (c.subscribe optimistic).veil A :=
  map_veil A c fun m => m.subscribe_veil A optimistic

theorem veil_managers {m : Managers} (hm : c.managers = some m) :
    (c.veil A).managers = some (m.veil A) := by
  rw [veil, hm, Option.map_some]

theorem veil_unstarted (hm : c.managers = none) : c.veil A = c := by
  obtain ⟨fork, settings, managers, waiting⟩ := c
  cases hm
  rfl

theorem built_veil (root : Root) (digest : ForkDigest) :
    (c.built root digest).veil A = c.built root digest :=
  congrArg (fun m => { c with managers := some m }) (Managers.fresh_veil ..)

variable {node node' : Node}

theorem start_veil (schedule : node'.schedule = node.schedule) (root : Root) (head : Bool) :
    (c.veil A).performed node' (.start root head) =
      (c.performed node (.start root head)).veil A := by
  cases hm : c.managers with
  | some m =>
    simp only [performed, start_started hm, start_started (c.veil_managers A hm)]
    rw [handOver_veil A c node.hub.registry, subscribe_veil]
  | none =>
    rw [veil_unstarted A c hm]
    simp only [performed, start_unstarted hm, schedule]
    cases node.schedule.digestAt c.fork.epoch with
    | mk digest s =>
      cases digest with
      | error e => exact (veil_unstarted A c hm).symm
      | ok digest =>
        have hbuilt := handOver_veil A (c.built root digest)
          (node.hub.registry.touch (SubnetSet.fresh c.settings digest).gauge)
          (node'.hub.registry.touch (SubnetSet.fresh c.settings digest).gauge)
        rw [built_veil] at hbuilt
        simp only [hbuilt, subscribe_veil]

theorem requestSubnet_veil (index : UInt64) :
    (c.veil A).performed node' (.requestSubnet index) =
      (c.performed node (.requestSubnet index)).veil A := by
  have hs : (c.veil A).settings = c.settings := rfl
  simp only [performed, requestSubnet, hs]
  cases SubnetId.check index c.settings.subnetCount with
  | error e => rfl
  | ok id =>
    cases hm : c.managers with
    | none =>
      simp only [veil, hm, Option.map_none]
    | some m =>
      simp only [c.veil_managers A hm]
      exact congrArg (fun s => { c with managers := some { m.veil A with attestation := s } })
        (m.attestation.request_veil A id _ _)

theorem releaseSubnet_veil (index : UInt64) :
    (c.veil A).performed node' (.releaseSubnet index) =
      (c.performed node (.releaseSubnet index)).veil A := by
  have hs : (c.veil A).settings = c.settings := rfl
  simp only [performed, releaseSubnet, hs]
  cases SubnetId.check index c.settings.subnetCount with
  | error e => rfl
  | ok id =>
    cases hm : c.managers with
    | none =>
      simp only [veil, hm, Option.map_none]
    | some m =>
      simp only [c.veil_managers A hm]
      exact congrArg (fun s => { c with managers := some { m.veil A with attestation := s } })
        (m.attestation.release_veil A id _ _)

theorem publishAttestation_veil (a : GossipAttestation) (h h' : Hub) :
    ((c.veil A).publishAttestation a h').2.1 = (c.publishAttestation a h).2.1.veil A := by
  rw [publishAttestation_controller, publishAttestation_controller]
  exact map_veil A c fun m =>
    congrArg (fun s => { m.veil A with attestation := s }) (m.attestation.offer_veil A a h h')

theorem performed_veil (schedule : node'.schedule = node.schedule)
    (attestations : node'.attestations = node.attestations) (act : Act) :
    (c.veil A).performed node' act = (c.performed node act).veil A := by
  cases act with
  | start root head => exact start_veil A c schedule root head
  | stop => exact map_veil A c fun m => m.unsubscribe_veil A true
  | stopOptimistic => exact map_veil A c fun m => m.unsubscribe_veil A false
  | requestSubnet index => exact requestSubnet_veil A c index
  | releaseSubnet index => exact releaseSubnet_veil A c index
  | publishAttestation a =>
    simp only [performed, attestations]
    cases node.attestations[a]? with
    | none => rfl
    | some att => exact publishAttestation_veil ..
  | _ => rfl

theorem output_veil (message : Message) : (c.veil A).output message = c.output message := by
  rw [output, output, veil, Option.map_map]
  simp only [Function.comp_def, Managers.output_veil]

theorem attestationOutput_veil (a : GossipAttestation) :
    (c.veil A).attestationOutput a = c.attestationOutput a := by
  rw [attestationOutput, attestationOutput, veil, Option.map_map]
  simp only [Function.comp_def, Managers.attestationOutput_veil]

theorem takes_veil (a : GossipAttestation) : (c.veil A).takes a = c.takes a := by
  rw [takes, takes, veil, Option.any_map]
  simp only [Managers.takes_veil]

end Controller

namespace GossipObject

def veil (A : String) : GossipObject → GossipObject
  | controller c => controller (c.veil A)
  | manager m => manager (m.veil A)
  | subnets s => subnets (s.veil A)
  | channel c => channel (c.veil A)

variable (A : String) (o : GossipObject)

theorem performed_veil {node node' : Node} (schedule : node'.schedule = node.schedule)
    (attestations : node'.attestations = node.attestations) (act : Act) :
    (o.veil A).performed node' act = (o.performed node act).veil A := by
  cases o with
  | controller c => exact congrArg controller (c.performed_veil A schedule attestations act)
  | manager m => exact congrArg (fun c => manager ⟨c⟩) (m.channel.performed_veil A act)
  | subnets s => exact congrArg subnets (s.performed_veil A attestations act)
  | channel c => exact congrArg channel (c.performed_veil A act)

theorem output_veil (attestations : List GossipAttestation) (act : Act) :
    (o.veil A).output attestations act = o.output attestations act := by
  cases act with
  | publish message =>
    cases o with
    | controller c => exact c.output_veil A message
    | manager m => exact m.output_veil A message
    | _ => rfl
  | publishPayload payload =>
    cases o with
    | channel c => exact c.output_veil A payload
    | _ => rfl
  | publishAttestation n =>
    simp only [output]
    cases attestations[n]? with
    | none => cases o <;> rfl
    | some a =>
      cases o with
      | controller c => exact c.attestationOutput_veil A a
      | manager m => exact m.aggregateOutput_veil A a
      | subnets s => exact s.output_veil A a
      | channel c => rfl
  | gossip n =>
    simp only [output]
    cases attestations[n]? with
    | none => cases o <;> rfl
    | some a =>
      cases o with
      | subnets s => exact s.gossipOutput_veil A a
      | _ => rfl
  | _ => rfl

theorem takes_veil (a : GossipAttestation) : (o.veil A).takes a = o.takes a := by
  cases o with
  | controller c => exact c.takes_veil A a
  | manager m => exact m.takes_veil A a
  | _ => rfl

theorem scheduled_veil (schedule : Schedule) :
    (o.veil A).scheduled schedule = o.scheduled schedule := by
  cases o with
  | controller c =>
    cases hm : c.managers with
    | none => rw [veil, c.veil_unstarted A hm]
    | some m => simp only [veil, scheduled, c.veil_managers A hm, hm]
  | _ => rfl

theorem lanes_veil : (o.veil A).lanes = o.lanes.map fun (lane, c) => (lane, c.veil A) := by
  have subnets (s : SubnetSet) :
      (s.veil A).lanes = s.lanes.map fun (lane, c) => (lane, c.veil A) := by
    rw [SubnetSet.lanes, SubnetSet.lanes, SubnetSet.veil, List.map_map, List.map_map]
    rfl
  cases o with
  | controller c =>
    cases hm : c.managers with
    | none =>
      rw [veil, c.veil_unstarted A hm, lanes, hm]
      rfl
    | some m =>
      rw [veil, lanes, lanes, hm, c.veil_managers A hm, Option.map_some, Option.map_some,
        Option.getD_some, Option.getD_some, Managers.lanes, Managers.lanes, List.map_append,
        ← subnets, Managers.veil, List.map_map, List.map_map]
      refine congrArg _ (List.map_congr_left fun t _ => ?_)
      exact congrArg (Prod.mk · (t.channel.veil A)) (congrArg Lane.ofClass (t.veil_cls A))
  | subnets s => exact subnets s
  | _ => rfl

theorem channel?_veil (lane : Lane) :
    (o.veil A).channel? lane = (o.channel? lane).map (Channel.veil A) := by
  rw [channel?, channel?, lanes_veil]
  induction o.lanes with
  | nil => rfl
  | cons entry rest ih =>
    rw [List.map_cons, List.lookup_cons, List.lookup_cons]
    cases lane == entry.1 with
    | true => rfl
    | false => exact ih

theorem onLane_veil (lane : Lane) (c : Channel) :
    (o.veil A).onLane lane (fun _ => c.veil A) = (o.onLane lane fun _ => c).veil A := by
  cases o with
  | controller d =>
    exact congrArg controller (d.map_veil A fun m => m.onLane_veil A lane c)
  | subnets s =>
    cases lane with
    | subnet id =>
      have hs : ((s.veil A).onChannel id fun _ => c.veil A) =
          (s.onChannel id fun _ => c).veil A :=
        s.onChannel_veil A id fun _ => rfl
      exact congrArg subnets hs
    | _ => rfl
  | manager m => cases lane <;> rfl
  | channel d => cases lane <;> rfl

variable {A : String} {o : GossipObject}

theorem unfinished_veil (A : String) (o : GossipObject) (lane : Lane) :
    (o.veil A).unfinished lane =
      (((o.channel? lane).map (Channel.veil A)).map (·.unfinished)).getD 0 := by
  rw [unfinished, channel?_veil]

theorem Kept.spawned_veil {o' : GossipObject} (h : o'.Kept)
    (grown : ∀ lane, Grown (o.channel? lane) (o'.channel? lane)) :
    (o.veil A).spawned (o'.veil A) = o.spawned o' := by
  rw [spawned, spawned, lanes_veil, List.flatMap_map]
  refine List.flatMap_congr fun entry hm => ?_
  have hg := grown entry.1
  rw [h.channel?_of_mem hm] at hg
  simp only [unfinished_veil, hg.spawned A]
  rfl

theorem Kept.onLane_self (h : o.Kept) {lane : Lane} {c : Channel} (hc : o.channel? lane = some c) :
    (o.onLane lane fun _ => c) = o := by
  cases o with
  | controller d =>
    obtain ⟨mode, requested, h⟩ := h
    cases hd : d.managers with
    | none =>
      rw [channel?_stopped hd] at hc
      cases hc
    | some m =>
      have tracks := (h.started m hd).2
      rw [channel?_started hd] at hc
      have same : (m.onLane lane fun _ => c) = m :=
        Managers.onLane_self tracks.kept.ordered (fun _ ht => tracks.topic?_of_mem ht) hc
      rw [onLane, hd, Option.map_some, same, ← hd]
  | subnets s =>
    cases lane with
    | subnet id =>
      rw [channel?, lanes, SubnetSet.lookup_lanes] at hc
      exact congrArg GossipObject.subnets ((SubnetSet.Kept.ordered h).onChannel_self hc)
    | _ => rfl
  | manager m =>
    rw [channel?_sole rfl] at hc
    split at hc
    case isTrue hl =>
      rw [Option.some.injEq] at hc
      rw [hl, onLane, ← hc]
    case isFalse => cases hc
  | channel d =>
    rw [channel?_sole rfl] at hc
    split at hc
    case isTrue hl =>
      rw [Option.some.injEq] at hc
      rw [hl, onLane, ← hc]
    case isFalse => cases hc

/-- A turn of a task of the topic does not show under the veil. -/
theorem Kept.turned_veil (h : o.Kept) {lane : Lane} {c c' : Channel} (hc : o.channel? lane = some c)
    (same : c'.veil A = c.veil A) : (o.onLane lane fun _ => c').veil A = o.veil A := by
  rw [← onLane_veil, same, onLane_veil, h.onLane_self hc]

end GossipObject

namespace Channel

theorem veil_poll {A : String} {c : Channel} (h : Hub) (on : c.topic = A) :
    (c.poll h).1.veil A = c.veil A := by
  have topic : (c.poll h).1.topic = A := (congrArg Endpoint.topic (poll_endpoint c h)).trans on
  have endpoint := poll_endpoint c h
  have limit := poll_limit c h
  obtain ⟨wanted, generation⟩ := poll_requests c h
  rw [veil_on topic, veil_on on, asked, asked, endpoint, limit, wanted, generation]

end Channel

end BeaconGossip
