import BeaconGossip.Inbound
import BeaconGossip.Proofs.Controller.Convergence
import BeaconGossip.Proofs.Controller.Publishing
import BeaconGossip.Proofs.Message

namespace BeaconGossip

open Scenario (publishCalls)

namespace GossipAttestation

/-- How attestations come about: made here or received, and since then perhaps marked. -/
inductive Made : GossipAttestation → Prop where
  | ofValidator (a : Attestation) (committeesPerSlot : UInt64) :
    Made (.ofValidator a committeesPerSlot)
  | aggregateOfValidator (a : SignedAggregate) (committeesPerSlot : UInt64) :
    Made (.aggregateOfValidator a committeesPerSlot)
  | ofNetwork (a : Attestation) (subnet : Option SubnetId) : Made (.ofNetwork a subnet)
  | aggregateOfNetwork (a : SignedAggregate) : Made (.aggregateOfNetwork a)
  | marked {a : GossipAttestation} (h : Made a) : Made a.mark.2

/-- The subnet that an attestation was made for here. -/
def homeSubnet (a : GossipAttestation) (count : UInt64) : SubnetId :=
  Subnet.ofCommittee a.committeesPerSlot a.attestation.data.slot a.attestation.data.committee count

theorem Made.subnet_eq {a : GossipAttestation} (h : a.Made) (fresh : a.gossiped = false)
    (count : UInt64) : a.subnet count = a.homeSubnet count := by
  cases h with
  | ofValidator => rfl
  | aggregateOfValidator => rfl
  | ofNetwork => cases fresh
  | aggregateOfNetwork => cases fresh
  | marked => cases fresh

end GossipAttestation

namespace Endpoint

/-- A payload that decodes reaches one processor, whose verdict stands. -/
theorem deliver_decoded {e : Endpoint} {payload : Bytes} {m : Message}
    (hd : Message.decode e.cls e.topic payload = .ok m) (h : Hub) :
    (e.deliver payload h).1 = h.verdict e.cls ∧
      (e.deliver payload h).2.arrivals = h.arrivals ++ [⟨e.cls, m.received e.subnet⟩] := by
  unfold deliver
  simp only [hd, Hub.count, Message.operation_eq]
  cases h.verdict e.cls <;> exact ⟨rfl, rfl⟩

end Endpoint

namespace Node

/-- What the processor at the other end is to see of an act: the message that is offered, and of an
attestation also the subnet that its committee belongs to. -/
def arrival (node : Node) (count : UInt64) : Act → Option Arrival
  | .publish m => some ⟨m.cls, m.received none⟩
  | .publishAttestation n =>
    (node.attestations[n]?).map fun a =>
      match a.aggregate with
      | none => ⟨.attestation, .attestation
        { attestation := a.attestation
          aggregate := none
          receivedSubnet := some (a.homeSubnet count)
          committeesPerSlot := 0
          gossiped := true }⟩
      | some aggregate => ⟨.aggregate, .attestation
        { attestation := aggregate.content.aggregate
          aggregate := some aggregate
          receivedSubnet := none
          committeesPerSlot := 0
          gossiped := true }⟩
  | _ => none

/-- The controller is the object of the given number. It was made with the settings at some point of
the node's life. -/
def Hosts (node : Node) (i : Nat) (settings : Settings) (c : Controller) : Prop :=
  (∃ (base : Node) (fork : Fork) (es : List Event),
    node = base.runController fork settings es ∧ i = base.objects.length) ∧
  node.objects[i]? = some (.controller c)

theorem Hosts.tracks {node : Node} {i : Nat} {settings : Settings} {c : Controller}
    (h : node.Hosts i settings c) : ∃ mode requested, c.Tracks settings mode requested := by
  obtain ⟨⟨base, fork, es, rfl, rfl⟩, hc⟩ := h
  obtain ⟨c', hc', ht⟩ := (Controller.tracksIn_added base fork settings).run es
  rw [runController, hc', Option.some.injEq, GossipObject.controller.injEq] at hc
  subst hc
  exact ⟨_, _, ht⟩

end Node

namespace Controller

open Node (Act)

namespace Account

/-- The account of a controller as it stands. -/
def current (c : Controller) (node : Node) (mode : Mode) : Account where
  fork := c.fork
  settings := c.settings
  mode := mode
  digest := c.digest
  schedule := node.schedule
  attestations := node.attestations

variable {a : Account} {kind : TopicKind} {payload : Bytes} {entry : String × Bytes}

theorem mem_emit (h : entry ∈ a.emit kind payload) :
    ∃ digest, a.digest = some digest ∧ payload.length ≤ a.settings.limit ∧
      entry = ((a.settings.namer digest).topic kind, payload) := by
  unfold emit at h
  split at h
  · cases h
  · rename_i digest hd
    split at h
    · cases h
    · exact ⟨digest, hd, by omega, List.mem_singleton.1 h⟩

theorem mem_ofMessage {message : Message} (h : entry ∈ a.ofMessage message) :
    entry ∈ a.emit (.ofClass message.cls) message.encode := by
  rw [ofMessage_eq] at h
  split at h
  · exact h
  · cases h

/-- An entry of an act's output is the encoding of what is to arrive, on the topic of its kind. -/
theorem mem_ofAct {node : Node} {act : Act} (attestations : a.attestations = node.attestations)
    (made : ∀ att ∈ node.attestations, att.Made) (h : entry ∈ a.ofAct act) :
    ∃ (kind : TopicKind) (m : Message), entry ∈ a.emit kind m.encode ∧ m.cls = kind.cls ∧
      node.arrival a.settings.subnetCount act = some ⟨kind.cls, m.received kind.subnet?⟩ := by
  cases act with
  | publish m => exact ⟨.ofClass m.cls, m, mem_ofMessage h, rfl, rfl⟩
  | publishAttestation n =>
    rw [ofAct, attestations] at h
    rw [Node.arrival]
    cases hn : node.attestations[n]? with
    | none =>
      rw [hn] at h
      cases h
    | some att =>
      rw [hn, Option.map_some, Option.getD_some, ofAttestation] at h
      cases hg : att.gossiped with
      | true =>
        rw [hg, if_pos rfl] at h
        cases h
      | false =>
        rw [hg] at h
        cases ha : att.aggregate with
        | none =>
          simp only [ha, Bool.false_eq_true, if_false] at h
          split at h
          · have hs := (made att (List.mem_of_getElem? hn)).subnet_eq hg a.settings.subnetCount
            rw [hs] at h
            refine ⟨.subnet _, .attestation att.attestation, h, rfl, ?_⟩
            simp only [Option.map_some, ha]
            rfl
          · cases h
        | some aggregate =>
          simp only [ha, Bool.false_eq_true, if_false] at h
          split at h
          · cases h
          · refine ⟨.ofClass .aggregate, .aggregate aggregate, h, rfl, ?_⟩
            simp only [Option.map_some, ha]
            rfl
  | _ => cases h

end Account

/-- What comes of a payload that is delivered: just the arrival, and its processor's verdict. An
attestation that has arrived makes no controller call the overlay. -/
structure Delivered (e : Endpoint) (payload : Bytes) (arrival : Arrival) (h : Hub) : Prop where
  arrivals : (e.deliver payload h).2.arrivals = h.arrivals ++ [arrival]
  verdict : (e.deliver payload h).1 = h.verdict arrival.cls
  spent : ∀ a, arrival.operation = .attestation a → ∀ (c : Controller) (h' : Hub),
    (c.publishAttestation a h').2.2.overlay = h'.overlay

theorem gossiped_of_received {m : Message} {subnet : Option SubnetId} {a : GossipAttestation}
    (h : m.received subnet = .attestation a) : a.gossiped = true := by
  cases m with
  | attestation => cases h; rfl
  | aggregate => cases h; rfl
  | _ => cases h

theorem delivered_of_encoded {e : Endpoint} {m : Message} (hc : m.cls = e.cls) (hf : m.Fits)
    (h : Hub) : Delivered e m.encode ⟨e.cls, m.received e.subnet⟩ h := by
  have hd := (Message.decode_iff e.cls e.topic m.encode m).2 ⟨hc, hf, List.prefix_rfl⟩
  obtain ⟨verdict, arrivals⟩ := Endpoint.deliver_decoded hd h
  refine ⟨arrivals, verdict, ?_⟩
  intro a ha c h'
  rw [c.published_publishAttestation, c.attestationOutput_gossiped (gossiped_of_received ha)]
  rfl

theorem published_eq {node : Node} {i : Nat} {c : Controller} {settings : Settings} {mode : Mode}
    {requested : SubnetId → Prop} (h : c.Tracks settings mode requested)
    (hc : node.objects[i]? = some (.controller c)) {act : Act} {calls : List (String × Bytes)}
    (published : publishCalls (node.perform i act).2.hub.overlay.calls =
      publishCalls node.hub.overlay.calls ++ calls) :
    calls = (Account.current c node mode).ofAct act := by
  have agrees : (Account.current c node mode).Agrees requested node c := by
    refine ⟨⟨rfl, rfl, rfl, rfl⟩, ?_⟩
    rw [← h.settings_eq] at h
    exact h
  rw [(agrees.performs hc act).published, List.append_cancel_left_eq] at published
  exact published.symm

theorem namer_eq {settings settings' : Settings} (space : settings'.space = settings.space)
    (digest : ForkDigest) : settings'.namer digest = settings.namer digest := by
  have encoding : settings'.encoding = settings.encoding := by
    cases settings'.encoding
    cases settings.encoding
    rfl
  rw [Settings.namer, Settings.namer, space, encoding]

theorem Tracks.endpoint_of_topic {c : Controller} {settings : Settings} {mode : Mode}
    {requested : SubnetId → Prop} (h : c.Tracks settings mode requested) {digest : ForkDigest}
    (started : c.digest = some digest) {lane : Lane} {d : Channel}
    (hd : (GossipObject.controller c).channel? lane = some d) {kind : TopicKind}
    (on : d.topic = (settings.namer digest).topic kind) :
    d.endpoint = (settings.namer digest).endpoint kind := by
  obtain ⟨m, hm, rfl⟩ := Option.map_eq_some_iff.1 started
  rw [GossipObject.channel?_started hm] at hd
  obtain ⟨kind', _, he⟩ := (h.started m hm).2.lane_endpoint hd
  have ht := congrArg Endpoint.topic he
  rw [TopicNamer.topic_inj (on.symm.trans ht)]
  exact he

/-- Whatever a controller publishes, every other controller of the fork that is live on the topic
passes on to the processor of the class, once and unaltered. -/
theorem delivers_as_published {a b : Node} {i j : Nat} {settings settings' : Settings}
    {c c' : Controller} (sender : a.Hosts i settings c) (receiver : b.Hosts j settings' c')
    (space : settings'.space = settings.space) (digest : c'.digest = c.digest)
    (made : ∀ att ∈ a.attestations, att.Made) {act : Act} {calls : List (String × Bytes)}
    (published : publishCalls (a.perform i act).2.hub.overlay.calls =
      publishCalls a.hub.overlay.calls ++ calls)
    {topic : String} {payload : Bytes} (call : (topic, payload) ∈ calls)
    {lane : Lane} {d : Channel} (channel : b.channel? ⟨j, lane⟩ = some d) (on : d.topic = topic)
    (live : b.hub.overlay.endpoint? topic = some d.endpoint) :
    ∃ e arrival, b.hub.overlay.endpoint? topic = some e ∧
      a.arrival settings.subnetCount act = some arrival ∧ Delivered e payload arrival b.hub := by
  obtain ⟨mode, requested, ht⟩ := sender.tracks
  obtain ⟨mode', requested', ht'⟩ := receiver.tracks
  rw [published_eq ht sender.2 published] at call
  obtain ⟨kind, m, hemit, hcls, harrival⟩ := Account.mem_ofAct rfl made call
  obtain ⟨digest', hdigest, short, hentry⟩ := Account.mem_emit hemit
  rw [Prod.mk.injEq] at hentry
  obtain ⟨htopic, rfl⟩ := hentry
  simp only [Account.current, ht.settings_eq] at hdigest short htopic harrival
  -- The receiver names its topics like the sender, so that its channel is the one of the kind.
  have hd : (GossipObject.controller c').channel? lane = some d := by
    rw [Node.channel?, receiver.2] at channel
    exact channel
  have hon : d.topic = (settings'.namer digest').topic kind := by
    rw [on, htopic, namer_eq space]
  have he := ht'.endpoint_of_topic (digest.trans hdigest) hd hon
  have fits : m.Fits := Message.fits_of_short (Nat.lt_of_le_of_lt short (UInt64.toNat_lt _))
  have hdelivered := delivered_of_encoded (e := d.endpoint) (by rw [he]; exact hcls) fits b.hub
  refine ⟨d.endpoint, ⟨d.endpoint.cls, m.received d.endpoint.subnet⟩, live, ?_, hdelivered⟩
  rw [harrival, he]
  rfl

/-- An attestation goes from one controller to another that knows of fewer subnets. -/
theorem delivers_as_published_on_subnet :
    let attestation : Attestation := ⟨[true], .genesis, [7]⟩
    let a := Node.genesis.runController .genesis .standard
      [.addAttestation (.ofValidator attestation 4), .act 0 (.start .zero false)]
    let b := Node.genesis.runController .genesis { Settings.standard with subnetCount := 8 }
      [.act 0 (.requestSubnet 6), .act 0 (.start .zero false), .runTasks]
    let topic := "/eth2/00000000/beacon_attestation_6/ssz_snappy"
    let payload := (Message.attestation attestation).encode
    publishCalls (a.perform 0 (.publishAttestation 0)).2.hub.overlay.calls =
        publishCalls a.hub.overlay.calls ++ [(topic, payload)] ∧
      ∃ e, b.hub.overlay.endpoint? topic = some e ∧
        Delivered e payload
          ⟨.attestation, .attestation ⟨attestation, none, some ⟨6⟩, 0, true⟩⟩ b.hub := by
  intro attestation a b topic payload
  let sending := a.controllerAt 0
  let receiving := b.controllerAt 0
  let e : Endpoint := ⟨.attestation, topic, some ⟨6⟩⟩
  let d := (b.channel? ⟨0, .subnet ⟨6⟩⟩).getD (.fresh e 0)
  have sender : a.objects[0]? = some (.controller sending) := by decide +kernel
  have receiver : b.objects[0]? = some (.controller receiving) := by decide +kernel
  have digest : receiving.digest = sending.digest := by decide +kernel
  have attestations : a.attestations = [.ofValidator attestation 4] := by decide +kernel
  have published : publishCalls (a.perform 0 (.publishAttestation 0)).2.hub.overlay.calls =
      publishCalls a.hub.overlay.calls ++ [(topic, payload)] := by decide +kernel
  have channel : b.channel? ⟨0, .subnet ⟨6⟩⟩ = some d := by decide +kernel
  have on : d.topic = topic := by decide +kernel
  have live : b.hub.overlay.endpoint? topic = some d.endpoint := by decide +kernel
  have harrival : a.arrival 64 (.publishAttestation 0) =
      some ⟨.attestation, .attestation ⟨attestation, none, some ⟨6⟩, 0, true⟩⟩ := by decide +kernel
  have hosts : a.Hosts 0 .standard sending := ⟨⟨_, _, _, rfl, rfl⟩, sender⟩
  have hosts' : b.Hosts 0 { Settings.standard with subnetCount := 8 } receiving :=
    ⟨⟨_, _, _, rfl, rfl⟩, receiver⟩
  clear_value d sending receiving a b
  have made : ∀ att ∈ a.attestations, att.Made := by
    intro att hatt
    rw [attestations, List.mem_singleton] at hatt
    rw [hatt]
    exact .ofValidator attestation 4
  obtain ⟨e, arrival, he, ha, delivered⟩ := delivers_as_published hosts hosts' rfl digest made
    published List.mem_cons_self channel on live
  rw [show Settings.standard.subnetCount = 64 from rfl, harrival, Option.some.injEq] at ha
  subst ha
  exact ⟨published, e, he, delivered⟩

end Controller

end BeaconGossip
