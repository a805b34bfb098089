import BeaconGossip.Proofs.Controller.Account
import BeaconGossip.Proofs.Controller.Identity

namespace BeaconGossip

open Scenario (publishCalls)

namespace Node

/-- Neither starts gossip nor offers anything. -/
def Act.isPlain : Act → Bool
  | .start .. | .publish _ | .publishAttestation _ => false
  | _ => true

/-- Nothing has been published in between, nor has the schedule or an attestation changed. -/
structure Silent (node node' : Node) : Prop where
  schedule : node'.schedule = node.schedule
  attestations : node'.attestations = node.attestations
  published : publishCalls node'.hub.overlay.calls = publishCalls node.hub.overlay.calls

theorem Silent.refl (node : Node) : Silent node node := ⟨rfl, rfl, rfl⟩

theorem Silent.trans {node node' node'' : Node} (h : Silent node node') (h' : Silent node' node'') :
    Silent node node'' :=
  ⟨h'.schedule.trans h.schedule, h'.attestations.trans h.attestations,
    h'.published.trans h.published⟩

theorem silent_poll (node : Node) (a : Address) : Silent node (node.poll a) := by
  cases hd : node.channel? a with
  | none =>
    rw [poll_none hd]
    exact .refl node
  | some d =>
    rw [poll_some hd]
    exact ⟨rfl, rfl, d.publishCalls_poll node.hub⟩

theorem silent_sweep (addresses : List Address) (node : Node) :
    Silent node (node.sweep addresses).1 := by
  induction addresses generalizing node with
  | nil => exact .refl node
  | cons a rest ih => exact (silent_poll node a).trans (ih (node.poll a))

theorem silent_after (node : Node) {e : Event} (he : e.isOperation = false) :
    Silent node (node.after e) := by
  cases e with
  | act => cases he
  | addAttestation => cases he
  | mark => cases he
  | setGenesisRoot => cases he
  | setRule => exact ⟨rfl, rfl, rfl⟩
  | release r => exact ⟨rfl, rfl, Overlay.publishCalls_release node.hub.overlay r⟩
  | answer n r => exact ⟨rfl, rfl, Overlay.publishCalls_answer node.hub.overlay n r⟩
  | deliver endpoint payload =>
    exact ⟨rfl, rfl, congrArg (publishCalls ·.calls) (deliver_overlay endpoint payload node.hub)⟩
  | turn a => exact silent_poll node a
  | runTasks =>
    obtain ⟨hs, ha, hp⟩ := silent_sweep node.tasks node
    exact ⟨hs, ha, hp⟩
  | _ => exact ⟨rfl, rfl, rfl⟩

end Node

namespace Controller

open Node (Act Event Answer Silent Requested)

section Acts

variable {c : Controller} {r : Registry}

theorem start_of_none {schedule : Schedule}
    (h : schedule.startDigest c.digest c.fork.epoch = none) (root : Root) (head : Bool) :
    ∃ e, c.start root head schedule r = .error e := by
  cases hm : c.managers with
  | none =>
    rw [start_unstarted hm]
    simp only [Schedule.startDigest, digest, hm, Option.map_none] at h
    split at h
    · cases h
    · rename_i e _ he
      rw [he]
      exact ⟨e, rfl⟩
  | some m =>
    simp only [Schedule.startDigest, digest, hm, Option.map_some] at h
    cases h

theorem start_of_some {schedule schedule' : Schedule} {d : ForkDigest}
    (h : schedule.startDigest c.digest c.fork.epoch = some (d, schedule')) (root : Root)
    (head : Bool) :
    ∃ c' r', c.start root head schedule r = .ok (c', schedule', r') ∧ c'.fork = c.fork ∧
      c'.digest = some d := by
  cases hm : c.managers with
  | none =>
    rw [start_unstarted hm]
    simp only [Schedule.startDigest, digest, hm, Option.map_none] at h
    split at h
    · rename_i d' _ he
      simp only [Option.some.injEq, Prod.mk.injEq] at h
      obtain ⟨rfl, rfl⟩ := h
      have fixed := handOver_subscribe_fixed (c.built root d')
        (r.touch (SubnetSet.fresh c.settings d').gauge) head
      rw [he]
      exact ⟨_, _, rfl, fixed.fork, fixed.digest⟩
    · cases h
  | some m =>
    rw [start_started hm]
    have hd : c.digest = some m.digest := by rw [digest, hm, Option.map_some]
    simp only [Schedule.startDigest, hd, Option.some.injEq, Prod.mk.injEq] at h
    obtain ⟨rfl, rfl⟩ := h
    have fixed := handOver_subscribe_fixed c r head
    exact ⟨_, _, rfl, fixed.fork, fixed.digest.trans hd⟩

theorem silent_plain {node : Node} {i : Nat} (hc : node.objects[i]? = some (.controller c))
    {act : Act} (plain : act.isPlain = true) : Silent node (node.perform i act).2 := by
  cases act with
  | start => cases plain
  | publish => cases plain
  | publishAttestation => cases plain
  | stop =>
    simp only [Node.perform, Node.stop, hc]
    exact ⟨rfl, rfl, rfl⟩
  | stopOptimistic =>
    simp only [Node.perform, Node.stopOptimistic, hc]
    exact ⟨rfl, rfl, rfl⟩
  | subscribe =>
    simp only [Node.perform, Node.subscribe, hc]
    exact .refl node
  | unsubscribe =>
    simp only [Node.perform, Node.unsubscribe, hc]
    exact .refl node
  | requestSubnet index =>
    simp only [Node.perform, Node.requestSubnet, hc]
    cases c.requestSubnet index node.hub.registry with
    | error e => exact .refl node
    | ok p => exact ⟨rfl, rfl, rfl⟩
  | releaseSubnet index =>
    simp only [Node.perform, Node.releaseSubnet, hc]
    cases c.releaseSubnet index node.hub.registry with
    | error e => exact .refl node
    | ok p => exact ⟨rfl, rfl, rfl⟩
  | publishPayload payload =>
    simp only [Node.perform, Node.publishPayload, hc]
    exact .refl node
  | gossip n =>
    simp only [Node.perform, Node.gossip, hc]
    exact .refl node

end Acts

structure Account.Fits (a : Account) (node : Node) (c : Controller) : Prop where
  fork : c.fork = a.fork
  digest : c.digest = a.digest
  schedule : node.schedule = a.schedule
  attestations : node.attestations = a.attestations

/-- The account is that of the controller in the node. -/
structure Account.Agrees (a : Account) (requested : SubnetId → Prop) (node : Node)
    (c : Controller) : Prop extends a.Fits node c where
  tracks : c.Tracks a.settings a.mode requested

namespace Account

section Outputs

variable {a : Account} {requested : SubnetId → Prop} {node : Node} {c : Controller} {m : Managers}

theorem ofMessage_eq (a : Account) (message : Message) :
    a.ofMessage message =
      if message.cls ≠ .attestation ∧ a.mode.runs message.cls = true then
        a.emit (.ofClass message.cls) message.encode
      else [] := by
  rw [ofMessage]
  cases message <;> cases a.mode <;> rfl

theorem emit_none (hd : a.digest = none) (kind : TopicKind) (payload : Bytes) :
    a.emit kind payload = [] := by
  simp only [emit, hd]

theorem emit_some {digest : ForkDigest} (hd : a.digest = some digest) {kind : TopicKind}
    {d : Channel} (limit : d.limit = a.settings.limit)
    (topic : d.topic = (a.settings.namer digest).topic kind) (payload : Bytes) :
    a.emit kind payload = d.output payload := by
  simp only [emit, hd, Channel.output, limit, topic]

theorem Agrees.digest_none (h : a.Agrees requested node c) (hm : c.managers = none) :
    a.digest = none := by
  rw [← h.digest, Controller.digest, hm, Option.map_none]

theorem Agrees.digest_some (h : a.Agrees requested node c) (hm : c.managers = some m) :
    a.digest = some m.digest := by
  rw [← h.digest, Controller.digest, hm, Option.map_some]

theorem Agrees.topic? (h : a.Agrees requested node c) (hm : c.managers = some m)
    (cls : MessageClass) (hc : cls ≠ .attestation) :
    ∃ t, m.topic? cls = some t ∧ t.isActive = a.mode.runs cls ∧
      ∀ payload, t.channel.output payload = a.emit (.ofClass cls) payload := by
  obtain ⟨t, hf, hs⟩ := (h.tracks.started m hm).2.topic? hc
  have limit : t.channel.limit = a.settings.limit := congrArg (·.2.1) hs
  have topic : t.channel.topic = (a.settings.namer m.digest).topic (.ofClass cls) :=
    congrArg (·.1.topic) hs
  exact ⟨t, hf, congrArg (·.2.2) hs, fun payload =>
    (emit_some (h.digest_some hm) limit topic payload).symm⟩

theorem Agrees.ofMessage (h : a.Agrees requested node c) (message : Message) :
    c.output message = a.ofMessage message := by
  rw [ofMessage_eq]
  cases hm : c.managers with
  | none =>
    rw [output, hm, emit_none (h.digest_none hm), ite_self]
    rfl
  | some m =>
    rw [output, hm, Option.map_some, Option.getD_some, Managers.output]
    by_cases hc : message.cls = .attestation
    · rw [hc, (h.tracks.started m hm).2.topic?_attestation, if_neg (fun hn => hn.1 rfl)]
      rfl
    · obtain ⟨t, hf, hw, ho⟩ := h.topic? hm _ hc
      rw [hf, Option.map_some, Option.getD_some, TopicManager.output, hw, ho]
      simp only [ne_eq, hc, not_false_eq_true, true_and]

theorem Agrees.gossipOutput (h : a.Agrees requested node c) (hm : c.managers = some m)
    (att : GossipAttestation) :
    m.attestation.gossipOutput att =
      a.emit (.subnet (att.subnet a.settings.subnetCount))
        (Message.attestation att.attestation).encode := by
  have ht := (h.tracks.started m hm).2
  rw [SubnetSet.gossipOutput, ht.count]
  generalize att.subnet a.settings.subnetCount = id
  cases hd : m.attestation.channel? id with
  | none =>
    -- The channel that is opened for the purpose.
    refine (emit_some (h.digest_some hm) ht.limit ?_ _).symm
    exact congrArg (·.topic (.subnet id)) ht.namer
  | some d =>
    obtain ⟨he, hl⟩ := ht.kept.endpoint id d hd
    refine (emit_some (h.digest_some hm) (hl.trans ht.limit) ?_ _).symm
    rw [Channel.topic, he, SubnetSet.endpoint, ht.namer]

theorem runs_aggregate (mode : Mode) : mode.runs .aggregate = decide (mode ≠ .stopped) := by
  cases mode <;> rfl

theorem Agrees.takes (h : a.Agrees requested node c) (att : GossipAttestation) :
    c.takes att = a.takes att := by
  cases hm : c.managers with
  | none =>
    rw [Controller.takes, hm, Account.takes, (h.tracks.unstarted hm).1]
    cases att.aggregate <;> rfl
  | some m =>
    have he := (h.tracks.started m hm).2.enabled
    obtain ⟨t, hf, hw, _⟩ := h.topic? hm .aggregate (by decide)
    rw [Mode.runs_attestation] at he
    rw [runs_aggregate] at hw
    rw [Controller.takes, hm, Option.any_some, Managers.takes, hf, Option.any_some,
      SubnetSet.takes, TopicManager.takes, Account.takes, he, hw]
    cases att.aggregate <;> simp

theorem Agrees.ofAttestation (h : a.Agrees requested node c) (att : GossipAttestation) :
    c.attestationOutput att = a.ofAttestation att := by
  cases hm : c.managers with
  | none =>
    rw [Controller.attestationOutput, hm, Account.ofAttestation]
    simp only [emit_none (h.digest_none hm), ite_self]
    cases att.aggregate <;> simp
  | some m =>
    have he := (h.tracks.started m hm).2.enabled
    obtain ⟨t, hf, hw, ho⟩ := h.topic? hm .aggregate (by decide)
    rw [Mode.runs_attestation] at he
    rw [runs_aggregate] at hw
    rw [Controller.attestationOutput, hm, Option.map_some, Option.getD_some,
      Managers.attestationOutput, hf, Option.map_some, Option.getD_some, SubnetSet.output,
      SubnetSet.takes, h.gossipOutput hm, TopicManager.aggregateOutput, he, hw,
      Account.ofAttestation]
    cases att.gossiped <;> cases att.aggregate <;> simp [ho]

end Outputs

section Steps

variable {a : Account} {requested : SubnetId → Prop} {node : Node} {i : Nat} {es : List Event}
  {c : Controller}

/-- What the account says of an act comes true. -/
structure Performs (a : Account) (node : Node) (i : Nat) (c : Controller) (act : Act) : Prop where
  fits : (a.act act).Fits (node.perform i act).2 (c.performed node act)
  mode : (a.act act).mode = a.mode.act act (node.perform i act).1
  published : publishCalls (node.perform i act).2.hub.overlay.calls =
    publishCalls node.hub.overlay.calls ++ a.ofAct act

theorem Fits.performs_plain (h : a.Fits node c) (hc : node.objects[i]? = some (.controller c))
    {act : Act} (plain : act.isPlain = true) : a.Performs node i c act := by
  have silent := silent_plain hc plain
  have fixed : c.Fixed (c.performed node act) := by
    refine performed_fixed ?_
    rintro root head rfl
    cases plain
  have hfork := fixed.fork.trans h.fork
  have hdigest := fixed.digest.trans h.digest
  have hschedule := silent.schedule.trans h.schedule
  have hattestations := silent.attestations.trans h.attestations
  have hpublished := silent.published.trans (List.append_nil _).symm
  cases act with
  | start => cases plain
  | publish => cases plain
  | publishAttestation => cases plain
  | _ => exact ⟨⟨hfork, hdigest, hschedule, hattestations⟩, rfl, hpublished⟩

theorem Fits.performs_start (h : a.Fits node c) (hc : node.objects[i]? = some (.controller c))
    (root : Root) (head : Bool) : a.Performs node i c (.start root head) := by
  cases hd : a.schedule.startDigest a.digest a.fork.epoch with
  | none =>
    have hact : a.act (.start root head) = a := by simp only [Account.act, Account.start, hd]
    rw [← h.fork, ← h.digest, ← h.schedule] at hd
    obtain ⟨e, hs⟩ := start_of_none (r := node.hub.registry) hd root head
    refine ⟨?_, ?_, ?_⟩
    · simp only [hact, Node.perform, Node.start, hc, performed, hs]
      exact h
    · simp only [hact, Node.perform, Node.start, hc, hs]
      rfl
    · simp only [Node.perform, Node.start, hc, hs]
      exact (List.append_nil _).symm
  | some p =>
    obtain ⟨digest, schedule⟩ := p
    have hact : a.act (.start root head) =
        { a with mode := a.mode.start head, digest := some digest, schedule := schedule } := by
      simp only [Account.act, Account.start, hd]
    rw [← h.fork, ← h.digest, ← h.schedule] at hd
    obtain ⟨c', r', hs, hfork, hdigest⟩ := start_of_some (r := node.hub.registry) hd root head
    refine ⟨?_, ?_, ?_⟩
    · simp only [hact, Node.perform, Node.start, hc, performed, hs]
      exact ⟨hfork.trans h.fork, hdigest, rfl, h.attestations⟩
    · simp only [hact, Node.perform, Node.start, hc, hs]
      rfl
    · simp only [Node.perform, Node.start, hc, hs]
      exact (List.append_nil _).symm

theorem Agrees.performs_publish (h : a.Agrees requested node c)
    (hc : node.objects[i]? = some (.controller c)) (message : Message) :
    a.Performs node i c (.publish message) := by
  refine ⟨?_, rfl, ?_⟩
  · simp only [Node.perform, Node.publish, hc]
    exact ⟨h.fork, h.digest, h.schedule, h.attestations⟩
  · simp only [Node.perform, Node.publish, hc, c.published_publish, Overlay.publishCalls_published,
      h.ofMessage]
    rfl

theorem Agrees.performs_publishAttestation (h : a.Agrees requested node c)
    (hc : node.objects[i]? = some (.controller c)) (n : Nat) :
    a.Performs node i c (.publishAttestation n) := by
  cases hn : node.attestations[n]? with
  | none =>
    refine ⟨?_, rfl, ?_⟩
    · simp only [Node.perform, Node.publishAttestation, hc, hn, performed]
      refine ⟨h.fork, h.digest, h.schedule, ?_⟩
      rw [Account.act, ← h.attestations, List.modify_eq_set_getElem?, hn]
      rfl
    · simp only [Node.perform, Node.publishAttestation, hc, hn, ofAct, ← h.attestations]
      exact (List.append_nil _).symm
  | some att =>
    have fixed := c.publishAttestation_fixed att node.hub
    refine ⟨?_, rfl, ?_⟩
    · simp only [Node.perform, Node.publishAttestation, hc, hn, performed]
      refine ⟨fixed.fork.trans h.fork, fixed.digest.trans h.digest, h.schedule, ?_⟩
      have hmark := c.publishAttestation_mark att node.hub
      rw [h.takes] at hmark
      rw [Account.act, ← h.attestations, List.modify_eq_set_getElem?, hn]
      exact congrArg (node.attestations.set n) hmark
    · simp only [Node.perform, Node.publishAttestation, hc, hn, ofAct, ← h.attestations,
        Option.map_some, Option.getD_some, ← h.ofAttestation]
      exact (congrArg (publishCalls ·.calls) (c.published_publishAttestation att node.hub)).trans
        (Overlay.publishCalls_published ..)

theorem Agrees.performs (h : a.Agrees requested node c)
    (hc : node.objects[i]? = some (.controller c)) (act : Act) : a.Performs node i c act := by
  cases act with
  | start root head => exact h.performs_start hc root head
  | publish message => exact h.performs_publish hc message
  | publishAttestation n => exact h.performs_publishAttestation hc n
  | _ => exact h.performs_plain hc rfl

/-- The node has the controller, and the account is its. -/
def AgreesIn (a : Account) (i : Nat) (es : List Event) (node : Node) : Prop :=
  ∃ c, node.objects[i]? = some (.controller c) ∧
    a.Agrees (Requested a.settings.subnetCount i es) node c

/-- What the account says of an event comes true. -/
structure Follows (a : Account) (i : Nat) (es : List Event) (node : Node) (e : Event) : Prop where
  agrees : (a.after i e).AgreesIn i (es ++ [e]) (node.after e)
  mode : (a.after i e).mode = a.mode.after i (e, (node.step e).1)
  published : publishCalls (node.after e).hub.overlay.calls =
    publishCalls node.hub.overlay.calls ++ a.ofEvent i e

theorem AgreesIn.follows_act (h : a.AgreesIn i es node) (act : Act) :
    a.Follows i es node (.act i act) := by
  obtain ⟨c, hc, h⟩ := h
  obtain ⟨fits, mode, published⟩ := h.performs hc act
  have hafter : a.after i (.act i act) = a.act act := if_pos rfl
  refine ⟨⟨_, objects_perform hc act, ?_⟩, ?_, ?_⟩
  · rw [hafter]
    refine ⟨fits, ?_⟩
    rw [(a.act_fixed act).2, mode]
    exact h.tracks.perform hc act
  · rw [hafter, mode, Mode.after, if_pos rfl]
    rfl
  · rw [ofEvent, if_pos rfl]
    exact published

/-- An event that is no act on the controller changes neither its mode nor its topics. -/
theorem AgreesIn.follows_other (h : a.AgreesIn i es node) {e : Event} (he : ∀ act, e ≠ .act i act)
    {schedule : Schedule} {attestations : List GossipAttestation}
    (after : a.after i e = { a with schedule := schedule, attestations := attestations })
    (hs : (node.after e).schedule = schedule) (ha : (node.after e).attestations = attestations)
    (published : publishCalls (node.after e).hub.overlay.calls =
      publishCalls node.hub.overlay.calls ++ a.ofEvent i e) : a.Follows i es node e := by
  obtain ⟨c, hc, h⟩ := h
  obtain ⟨c', hc', turned⟩ := turned_after hc he
  have fixed := turned.fixed
  refine ⟨⟨c', hc', ?_⟩, ?_, published⟩
  · rw [after]
    refine ⟨⟨fixed.fork.trans h.fork, fixed.digest.trans h.digest, hs, ha⟩, ?_⟩
    exact (h.tracks.turns turned).event fun id => Event.subnetRequest_other he
  · rw [after, Mode.after_other he]

theorem AgreesIn.schedule (h : a.AgreesIn i es node) : node.schedule = a.schedule := by
  obtain ⟨c, _, h⟩ := h
  exact h.schedule

theorem AgreesIn.attestations (h : a.AgreesIn i es node) : node.attestations = a.attestations := by
  obtain ⟨c, _, h⟩ := h
  exact h.attestations

theorem AgreesIn.follows_silent (h : a.AgreesIn i es node) {e : Event}
    (he : e.isOperation = false) : a.Follows i es node e := by
  obtain ⟨hs, ha, hp⟩ := Node.silent_after node he
  refine h.follows_other ?_ (after_of_not_operation he) (hs.trans h.schedule)
    (ha.trans h.attestations) ?_
  · rintro act rfl
    cases he
  · rw [hp, ofEvent_of_not_operation he, List.append_nil]

theorem AgreesIn.follows_mark (h : a.AgreesIn i es node) (n : Nat) :
    a.Follows i es node (.mark n) := by
  refine h.follows_other (fun _ he => by cases he) rfl ?_ ?_ ?_ <;>
    simp only [Node.after, Node.step, Node.mark]
  · split <;> exact h.schedule
  · rw [← h.attestations, List.modify_eq_set_getElem?]
    split <;> rename_i hn <;> rw [hn] <;> rfl
  · split <;> exact (List.append_nil _).symm

theorem AgreesIn.follows (h : a.AgreesIn i es node) {e : Event} (own : e.Own i) :
    a.Follows i es node e := by
  cases e with
  | act j act =>
    cases own
    exact h.follows_act act
  | addAttestation att =>
    refine h.follows_other (fun _ he => by cases he) rfl h.schedule ?_ (List.append_nil _).symm
    exact congrArg (· ++ [att]) h.attestations
  | mark n => exact h.follows_mark n
  | setGenesisRoot root =>
    refine h.follows_other (fun _ he => by cases he) rfl ?_ h.attestations (List.append_nil _).symm
    exact congrArg (·.setGenesisRoot root) h.schedule
  | _ => exact h.follows_silent rfl

theorem AgreesIn.run (h : a.AgreesIn i [] node) (stopped : a.mode = .stopped) (es : List Event)
    (own : ∀ e ∈ es, e.Own i) :
    (a.run i es).AgreesIn i es (node.run es) ∧
      (a.run i es).mode = .reached i (node.history es) ∧
      publishCalls (node.run es).hub.overlay.calls =
        publishCalls node.hub.overlay.calls ++ a.trace i es := by
  -- From the right, since the account that an event meets is that of all events before it.
  induction es using List.reverseRecOn with
  | nil => exact ⟨h, stopped, (List.append_nil _).symm⟩
  | append_singleton es e ih =>
    obtain ⟨agrees, mode, published⟩ := ih fun e' he' => own e' (List.mem_append_left _ he')
    have follows := agrees.follows (own e (List.mem_append_right _ (List.mem_singleton_self e)))
    rw [Node.run_append, run_append, trace_append, Node.history_append]
    refine ⟨follows.agrees, ?_, ?_⟩
    · rw [follows.mode, mode, Mode.reached, Mode.reached, List.foldl_append]
      rfl
    · rw [follows.published, published, List.append_assoc]

end Steps

theorem agreesIn_added (before : Node) (fork : Fork) (settings : Settings) :
    (opened fork settings before).AgreesIn before.objects.length []
      (before.after (.addController fork settings)) := by
  refine ⟨.ofFork fork settings, (Node.objects_add ..).trans (if_pos rfl), ⟨rfl, rfl, rfl, rfl⟩, ?_⟩
  exact (Tracks.ofFork fork settings).congr fun id =>
    (iff_of_false Node.not_requested_nil not_false).symm

end Account

/-- What a run of a new controller publishes is told by the operations in it. -/
structure Accounted (base : Node) (fork : Fork) (settings : Settings) (es : List Event) : Prop where
  /-- The account goes by the mode that the answers to starts and the stops make. -/
  mode : ((Account.opened fork settings base).run base.objects.length es).mode =
    .reached base.objects.length ((base.after (.addController fork settings)).history es)
  published : publishCalls (base.runController fork settings es).hub.overlay.calls =
    publishCalls base.hub.overlay.calls ++
      (Account.opened fork settings base).trace base.objects.length es
  /-- No operation publishes later than at once, and no other event at all. -/
  atOnce : ∀ e, e.Own base.objects.length →
    publishCalls (base.runController fork settings (es ++ [e])).hub.overlay.calls =
      publishCalls (base.runController fork settings es).hub.overlay.calls ++
        ((Account.opened fork settings base).run base.objects.length es).ofEvent
          base.objects.length e
  /-- Whatever the tasks and the overlay do instead, the same is published. -/
  unswayed : ∀ es' : List Event, es'.filter (·.isOperation) = es.filter (·.isOperation) →
    publishCalls (base.runController fork settings es').hub.overlay.calls =
      publishCalls (base.runController fork settings es).hub.overlay.calls

theorem own_of_operations {i : Nat} {es es' : List Event} (own : ∀ e ∈ es, e.Own i)
    (operations : es'.filter (·.isOperation) = es.filter (·.isOperation)) :
    ∀ e ∈ es', e.Own i := by
  intro e he
  cases hop : e.isOperation with
  | true =>
    have hmem : e ∈ es'.filter (·.isOperation) := List.mem_filter.2 ⟨he, hop⟩
    rw [operations] at hmem
    exact own e (List.mem_of_mem_filter hmem)
  | false =>
    cases e with
    | act => cases hop
    | _ => trivial

theorem publishes_by_operations (base : Node) (fork : Fork) (settings : Settings)
    (es : List Event) (own : ∀ e ∈ es, e.Own base.objects.length) :
    Accounted base fork settings es := by
  have h := Account.agreesIn_added base fork settings
  have published (es : List Event) (own : ∀ e ∈ es, e.Own base.objects.length) :=
    (h.run rfl es own).2.2
  obtain ⟨agrees, mode, _⟩ := h.run rfl es own
  refine ⟨mode, published es own, ?_, ?_⟩
  · intro e he
    rw [Node.runController, Node.run_append]
    exact (agrees.follows he).published
  · intro es' operations
    apply (published es' (own_of_operations own operations)).trans
    rw [← Account.trace_filter es', operations, Account.trace_filter]
    exact (published es own).symm

/-- Neither joins that are held nor a repeated offer add to what is published. -/
theorem publishes_by_operations_while_held :
    let exit : Message := .voluntaryExit ⟨⟨3, 8⟩, []⟩
    let attestation : Attestation := ⟨[], .genesis, []⟩
    let es : List Event := [.addAttestation (.ofValidator attestation 4), .act 0 (.publish exit),
      .setRule (.hold .join none), .act 0 (.start .zero true), .runTasks, .act 0 (.publish exit),
      .act 0 (.publishAttestation 0), .act 0 (.start .zero false), .act 0 (.publish exit),
      .act 0 (.publishAttestation 0), .act 0 (.publishAttestation 0),
      .release (.refuse .join none "refused"), .runTasks, .act 0 .stop, .act 0 (.publish exit)]
    (∀ e ∈ es, e.Own 0) ∧ Accounted .genesis .genesis .standard es ∧
      publishCalls (Node.genesis.runController .genesis .standard es).hub.overlay.calls =
        [("/eth2/00000000/voluntary_exit/ssz_snappy", exit.encode),
          ("/eth2/00000000/beacon_attestation_6/ssz_snappy",
            (Message.attestation attestation).encode)] := by
  intro exit attestation es
  have own : ∀ e ∈ es, e.Own 0 := by simp [es, Event.Own]
  exact ⟨own, publishes_by_operations .genesis .genesis .standard es own, by decide +kernel⟩

end Controller

end BeaconGossip
