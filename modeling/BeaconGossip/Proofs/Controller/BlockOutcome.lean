import BeaconGossip.Proofs.Controller.Founding
import BeaconGossip.Proofs.Controller.Posts
import BeaconGossip.Proofs.Node.Publishers
import BeaconGossip.Proofs.Scenario.Futures

namespace BeaconGossip

open Node (Event Interim Section)

theorem Overlay.afterReply_publish (live : List (String × Endpoint)) (topic : String)
    (payload : Bytes) (reply : Option Reply) :
    afterReply live ⟨topic, .publish payload, reply⟩ = live := by
  cases reply with
  | none => rfl
  | some r => cases r <;> rfl

theorem Overlay.call_publish (o : Overlay) (topic : String) (payload : Bytes) :
    ∃ reply, o.call topic (.publish payload) =
      ({ o with calls := o.calls ++ [⟨topic, .publish payload, reply⟩] },
        ⟨topic, (o.callsOn topic).length⟩) := by
  simp only [call]
  cases o.behaviour (Action.publish payload).kind topic with
  | answer a => exact ⟨some (a.on topic), by dsimp only; rw [afterReply_publish]⟩
  | hold => exact ⟨none, rfl⟩

namespace Node

/-- The node with each of the series counted once more. -/
def counting (node : Node) (series : List Registry.Series) : Node :=
  { node with
    hub := { node.hub with registry := series.foldl Registry.increment node.hub.registry } }

/-- The name of the next call on the topic. -/
def nextTicket (node : Node) (topic : String) : Overlay.Ticket :=
  ⟨topic, (node.hub.overlay.callsOn topic).length⟩

/-- The node once it has made the call to publish for the class. -/
def calling (node : Node) (call : Overlay.Call) (cls : MessageClass) : Node :=
  { node with
    hub := { node.hub with
      overlay := { node.hub.overlay with calls := node.hub.overlay.calls ++ [call] }
      publications := node.hub.publications ++ [⟨node.nextTicket call.topic, cls, false⟩] } }

/-- The block is refused. Its publisher is told at once, and nothing is done but to count. -/
structure Refuses (node : Node) (i : Nat) (b : SignedBlock) (e : GossipError)
    (counted : List Registry.Series) : Prop where
  publish : node.publish i (.block b) = (some (.refused e), node.counting counted)
  told : ∀ hub : Hub, hub.result? (.refused e) = some (.error e)

/-- The block is published on the topic by one call, and its publisher is told of the reply. -/
structure Sends (node : Node) (i : Nat) (b : SignedBlock) (topic : String) : Prop where
  publish : ∃ reply, node.publish i (.block b) =
    (some (.sent (node.nextTicket topic)), (node.counting [.publishRequests .block]).calling
      ⟨topic, .publish (Message.block b).encode, reply⟩ .block)
  reports : ∀ deliveries, Interim.Reports ⟨(node.publish i (.block b)).2, deliveries⟩
    (node.nextTicket topic) node.hub.publications.length (Message.block b).encode

/-- What comes of a block, given what the controller is like. -/
structure BlockOutcome (node : Node) (i : Nat) (c : Controller) (b : SignedBlock) : Prop where
  unstarted : c.isStarted = false → node.Refuses i b .notStarted []
  started : ∀ m, c.managers = some m → ∃ d, m.topic? .block = some d ∧
    let topic := (c.settings.namer m.digest).topic (.ofClass .block)
    let size := (Message.block b).encode.length
    if d.isActive = false then
      node.Refuses i b (.topicInactive topic) [.publishRequests .block]
    else if c.settings.limit < size then
      node.Refuses i b (.messageTooLarge size c.settings.limit)
        [.publishRequests .block, .publishFailures .block]
    else node.Sends i b topic
  /-- In a scripted run the future may be dropped, or looked at time and again, or never. -/
  unattended : ∀ (s : Scenario) id name steps, s.node = node → s.object id = i →
    (∀ st ∈ steps, Scenario.Step.keeps? st ≠ some name) →
    ((s.step (.publish id (.block b) .drop)).2.carriedOut (steps.map (·.overlooking name))).node =
      ((s.step (.publish id (.block b) (.keep name))).2.carriedOut steps).node

variable {node : Node} {i : Nat} {c : Controller}

theorem refuses {b : SignedBlock} {e : GossipError} {counted : List Registry.Series}
    (publish : node.publish i (.block b) = (some (.refused e), node.counting counted)) :
    node.Refuses i b e counted :=
  ⟨publish, fun _ => rfl⟩

theorem publish_controller (hc : node.objects[i]? = some (.controller c)) (message : Message) :
    node.publish i message =
      (some (c.publish message node.hub).1, node.withHub (c.publish message node.hub).2) := by
  rw [Node.publish, hc]
  rfl

theorem publish_unstarted (hc : node.objects[i]? = some (.controller c))
    (unstarted : c.isStarted = false) (b : SignedBlock) : node.Refuses i b .notStarted [] := by
  have hm : c.managers = none := by simpa [Controller.isStarted] using unstarted
  apply refuses
  rw [publish_controller hc, Controller.publish, hm]
  rfl

theorem publish_started (hc : node.objects[i]? = some (.controller c)) {m : Managers}
    (hm : c.managers = some m) {b : SignedBlock} {d : TopicManager}
    (hd : m.topic? .block = some d) :
    node.publish i (.block b) =
      (some (d.offer (.block b) node.hub).1, node.withHub (d.offer (.block b) node.hub).2) := by
  have cls : (Message.block b).cls = .block := rfl
  rw [publish_controller hc, Controller.publish, hm]
  dsimp only
  rw [cls, hd]

section Offers

variable {d : TopicManager} {topic : String} {limit : Nat} {b : SignedBlock}

theorem offer_inactive (post : d.post = (⟨.block, topic, none⟩, limit)) (hd : d.isActive = false) :
    d.offer (.block b) node.hub = (.refused (.topicInactive topic),
      (node.counting [.publishRequests .block]).hub) := by
  have cls : d.cls = .block := congrArg (·.1.cls) post
  have on : d.topic = topic := congrArg (·.1.topic) post
  rw [TopicManager.offer, TopicManager.gossip, hd, cls, on]
  rfl

theorem offer_long (post : d.post = (⟨.block, topic, none⟩, limit)) (hd : d.isActive = true)
    (long : limit < (Message.block b).encode.length) :
    d.offer (.block b) node.hub =
      (.refused (.messageTooLarge (Message.block b).encode.length limit),
        (node.counting [.publishRequests .block, .publishFailures .block]).hub) := by
  have cls : d.channel.cls = .block := congrArg (·.1.cls) post
  have within : d.channel.limit = limit := congrArg (·.2) post
  rw [TopicManager.offer, TopicManager.gossip, if_pos hd, Channel.publish, within, if_pos long,
    TopicManager.cls, cls]
  rfl

theorem offer_sent (node : Node) (post : d.post = (⟨.block, topic, none⟩, limit))
    (hd : d.isActive = true) (short : ¬ limit < (Message.block b).encode.length) :
    ∃ reply, d.offer (.block b) node.hub = (.sent (node.nextTicket topic),
      ((node.counting [.publishRequests .block]).calling
        ⟨topic, .publish (Message.block b).encode, reply⟩ .block).hub) := by
  have cls : d.channel.cls = .block := congrArg (·.1.cls) post
  have on : d.channel.topic = topic := congrArg (·.1.topic) post
  have within : d.channel.limit = limit := congrArg (·.2) post
  obtain ⟨reply, called⟩ := node.hub.overlay.call_publish topic (Message.block b).encode
  refine ⟨reply, ?_⟩
  have counted : (node.hub.count (.publishRequests .block)).overlay = node.hub.overlay := rfl
  rw [TopicManager.offer, TopicManager.gossip, if_pos hd, Channel.publish, within, if_neg short,
    TopicManager.cls, cls, on, counted, called]
  rfl

end Offers

theorem reports_calling (node : Node) (topic : String) (payload : Bytes)
    (reply : Option Overlay.Reply) (cls : MessageClass) (deliveries : List Delivery) :
    Interim.Reports ⟨node.calling ⟨topic, .publish payload, reply⟩ cls, deliveries⟩
      (node.nextTicket topic) node.hub.publications.length payload := by
  let h := (node.calling ⟨topic, .publish payload, reply⟩ cls).hub
  have noted : h.outcomes[node.hub.publications.length]? = some (node.nextTicket topic, false) := by
    simp [h, calling, Hub.outcomes]
  have called : h.overlay.call? (node.nextTicket topic) =
      some ⟨topic, .publish payload, reply⟩ := by
    have on : h.overlay.callsOn topic =
        node.hub.overlay.callsOn topic ++ [⟨topic, .publish payload, reply⟩] := by
      simp [h, calling, Overlay.callsOn]
    rw [Overlay.call?, nextTicket, on]
    exact List.getElem?_concat_length
  have action : h.overlay.action? (node.nextTicket topic) = some (.publish payload) := by
    rw [Overlay.action?, called, Option.map_some]
  exact reports_of_noted noted action

theorem sends_of_offer {m : Managers} (hc : node.objects[i]? = some (.controller c))
    (hm : c.managers = some m) {b : SignedBlock} {d : TopicManager} (hd : m.topic? .block = some d)
    {topic : String} {limit : Nat} (post : d.post = (⟨.block, topic, none⟩, limit))
    (active : d.isActive = true) (short : ¬ limit < (Message.block b).encode.length) :
    node.Sends i b topic := by
  have publish := publish_started hc hm (b := b) hd
  obtain ⟨reply, offered⟩ := node.offer_sent post active short
  rw [offered] at publish
  refine ⟨⟨reply, publish⟩, fun deliveries => ?_⟩
  rw [publish]
  exact (node.counting [.publishRequests .block]).reports_calling topic _ reply .block deliveries

theorem outcome_started (posted : c.Posted) (hc : node.objects[i]? = some (.controller c))
    {m : Managers} (hm : c.managers = some m) (b : SignedBlock) :
    ∃ d, m.topic? .block = some d ∧
      let topic := (c.settings.namer m.digest).topic (.ofClass .block)
      let size := (Message.block b).encode.length
      if d.isActive = false then
        node.Refuses i b (.topicInactive topic) [.publishRequests .block]
      else if c.settings.limit < size then
        node.Refuses i b (.messageTooLarge size c.settings.limit)
          [.publishRequests .block, .publishFailures .block]
      else node.Sends i b topic := by
  obtain ⟨d, hd, post⟩ := (posted m hm).topic? (c := .block) (by decide)
  refine ⟨d, hd, ?_⟩
  dsimp only
  split
  case isTrue inactive =>
    apply refuses
    rw [publish_started hc hm hd, offer_inactive post inactive]
    rfl
  case isFalse active =>
    rw [Bool.not_eq_false] at active
    split
    case isTrue long =>
      apply refuses
      rw [publish_started hc hm hd, offer_long post active long]
      rfl
    case isFalse short => exact sends_of_offer hc hm hd post active short

/-- In every run, whatever is made, asked for, answered or held before and after the controller is
made: the fate of a block is what the controller is like at the moment, and the overlay's reply. -/
theorem block_outcome (settings own : Settings) (schedule : Schedule) (fork : Fork)
    (before after : List Section) (b : SignedBlock) :
    let earlier := (Interim.fresh settings schedule).run before
    let made := earlier.step (.whole (.addController fork own))
    let node := (made.run after).node
    let i := earlier.node.objects.length
    ∃ c, node.objects[i]? = some (.controller c) ∧ c.settings = own ∧
      (c.isStarted = true ↔ made.HasFounded i after) ∧ node.BlockOutcome i c b := by
  intro earlier made node i
  have hc : made.node.objects[i]? = some (.controller (.ofFork fork own)) :=
    (objects_add ..).trans (if_pos rfl)
  obtain ⟨c, object, same, started⟩ := follows_run hc after
  have posted : c.Posted := by
    have all := lasting_posted.run settings schedule
      (before ++ .whole (.addController fork own) :: after)
    rw [Interim.run, List.foldl_append, List.foldl_cons] at all
    exact all.get object
  refine ⟨c, object, same, ?_, ?_, fun m hm => outcome_started posted object hm b, ?_⟩
  · have new : (Controller.ofFork fork own).managers = none := rfl
    rw [Controller.isStarted, Option.isSome_iff_ne_none, started, new]
    simp
  · exact fun unstarted => publish_unstarted object unstarted b
  · intro s id name steps hs hi free
    have future : (s.node.publish (s.object id) (.block b)).1 =
        some (c.publish (.block b) node.hub).1 := by
      rw [hs, hi, publish_controller object]
    exact s.node_carriedOut_dropped ⟨_, future, rfl⟩ free

/-- Gossip has been started on an optimistic head, and the overlay holds the block until the publish
task dies, or until it turns out that there is nobody to send it to. -/
theorem block_outcome_died :
    let b : SignedBlock := ⟨⟨1, 2, .zero, .zero, [3]⟩, []⟩
    let after : List Section :=
      [.whole (.act 0 (.start .zero true)), .whole (.setRule (.hold .publish none))]
    let schedule : Schedule := .genesis (some .zero)
    let t := ((Interim.fresh .standard schedule).step
      (.whole (.addController .genesis .standard))).run after
    let topic := "/eth2/00000000/beacon_block/ssz_snappy"
    let told (r : Overlay.Reply) : Option (Except GossipError Unit) :=
      (t.run [.whole (.act 0 (.publish (.block b))), .whole (.answer 0 r),
        .report 0]).node.hub.result? (.sent ⟨topic, 0⟩)
    let lonely : GossipError := .transport topic "InsufficientPeers"
    t.node.Sends 0 b topic ∧ told .died = some (.error .shutdown) ∧
      told (.refused lonely) = some (.error lonely) := by
  intro b after schedule t topic told lonely
  refine ⟨?_, by decide +kernel, by decide +kernel⟩
  let m := (Managers.fresh .standard ⟨.genesis, .zero⟩ ⟨.fill 4 0⟩).subscribe true
  have found : t.node.objects[0]? = some (.controller ⟨.genesis, .standard, some m, []⟩) := by
    decide +kernel
  have active : (m.topic? .block).map (·.isActive) = some true := by decide +kernel
  have short : ¬ Settings.standard.limit < (Message.block b).encode.length := by decide +kernel
  obtain ⟨c, hc, -, -, outcome⟩ := block_outcome .standard .standard schedule .genesis [] after b
  obtain rfl := GossipObject.controller.inj (Option.some.inj (hc.symm.trans found))
  obtain ⟨d, hd, sends⟩ := outcome.started m rfl
  rw [hd, Option.map_some, Option.some.injEq] at active
  rw [active, if_neg Bool.noConfusion, if_neg short] at sends
  exact sends

end Node

end BeaconGossip
