import BeaconGossip.Proofs.Channel.Settlement
import BeaconGossip.Proofs.Controller.Lifecycle
import BeaconGossip.Proofs.Node.Channels
import BeaconGossip.Proofs.Topic

namespace BeaconGossip

open Controller (Mode)

namespace TopicKind

/-- The lane of the channel that serves the topic. -/
def lane : TopicKind → Lane
  | .ofClass c => .ofClass c
  | .subnet id => .subnet id

/-- The class of the payloads. -/
def cls : TopicKind → MessageClass
  | .ofClass c => c
  | .subnet _ => .attestation

/-- The subnet of which payloads are tagged as coming from it. -/
def subnet? : TopicKind → Option SubnetId
  | .ofClass _ => none
  | .subnet id => some id

theorem lane_inj {k k' : TopicKind} (h : k.lane = k'.lane) : k = k' := by
  cases k <;> cases k' <;> simp_all [lane]

end TopicKind

/-- The endpoint of a topic of the fork. -/
def TopicNamer.endpoint (n : TopicNamer) (kind : TopicKind) : Endpoint :=
  ⟨kind.cls, n.topic kind, kind.subnet?⟩

namespace Managers

variable {m : Managers} {settings : Settings} {mode : Mode} {requested : SubnetId → Prop}

theorem Tracks.lane_endpoint (h : m.Tracks settings mode requested) {lane : Lane} {d : Channel}
    (hd : m.lanes.lookup lane = some d) :
    ∃ kind : TopicKind, lane = kind.lane ∧ d.endpoint = (settings.namer m.digest).endpoint kind := by
  cases lane with
  | sole =>
    rw [lookup_sole] at hd
    cases hd
  | subnet id =>
    rw [lookup_subnet] at hd
    refine ⟨.subnet id, rfl, ?_⟩
    rw [(h.kept.endpoint id d hd).1, SubnetSet.endpoint, h.namer]
    rfl
  | ofClass c =>
    rw [lookup_ofClass, Option.map_eq_some_iff] at hd
    obtain ⟨t, ht, rfl⟩ := hd
    refine ⟨.ofClass c, rfl, ?_⟩
    exact congrArg (·.1) (h.standing_eq (List.mem_of_find?_eq_some ht) (topic?_cls ht))

theorem Tracks.lane_topic (h : m.Tracks settings mode requested) {lane : Lane} {d : Channel}
    (hd : m.lanes.lookup lane = some d) :
    ∃ kind : TopicKind, lane = kind.lane ∧ d.topic = (settings.namer m.digest).topic kind := by
  obtain ⟨kind, hl, he⟩ := h.lane_endpoint hd
  exact ⟨kind, hl, congrArg Endpoint.topic he⟩

end Managers

namespace Node

open Overlay

theorem Rooted.sound {node : Node} (h : node.Rooted) {a : Address} {d : Channel}
    (hd : node.channel? a = some d) (alone : node.Alone a d.topic) :
    d.Sound (node.hub.overlay.callsOn d.topic) (node.hub.overlay.endpoint? d.topic) := by
  obtain ⟨limit, es, run⟩ := h.run a d hd alone
  exact run.sound

theorem Rooted.live_of_finished {node : Node} (h : node.Rooted) {a : Address} {d : Channel}
    (hd : node.channel? a = some d) (alone : node.Alone a d.topic) (finished : d.unfinished = 0) :
    node.hub.overlay.endpoint? d.topic = if d.confirmed then some d.endpoint else none := by
  have hs := h.sound hd alone
  obtain ⟨hi, _⟩ := hs.idle_of_finished finished
  apply hs.live_of_unheard
  intro ch hch
  rw [hi.rest] at hch
  cases hch

/-- A channel that has its topic for itself, has no task left and was never refused anything is in
the wanted state, and so is its topic. -/
theorem Rooted.at_rest {node : Node} (h : node.Rooted) {a : Address} {d : Channel}
    (hd : node.channel? a = some d) (alone : node.Alone a d.topic) (finished : d.unfinished = 0)
    (accepted : ∀ s ∈ changesIn (node.hub.overlay.callsOn d.topic), s.reply = some .ok) :
    d.confirmed = d.wanted := by
  have hs := h.sound hd alone
  apply hs.agreed (hs.idle_of_finished finished).2
  intro s hm r hr
  rw [accepted s hm, Option.some.injEq] at hr
  exact hr.symm

/-- The channel of the topic, if there is one, is in the wanted state, and so is the topic. -/
structure Follows (node : Node) (m : Managers) (namer : TopicNamer) (kind : TopicKind) : Prop where
  absent : m.lanes.lookup kind.lane = none → node.hub.overlay.endpoint? (namer.topic kind) = none
  present : ∀ d, m.lanes.lookup kind.lane = some d → d.confirmed = d.wanted ∧
    node.hub.overlay.endpoint? (namer.topic kind) = if d.wanted then some d.endpoint else none

/-- Only the object uses the topics, its tasks have ended, and no join or leave of the topics has
failed. -/
structure Quiet (node : Node) (i : Nat) (namer : TopicNamer) : Prop where
  apart : ∀ kind a d, node.channel? a = some d → d.topic = namer.topic kind → a.object = i
  finished : ∀ lane d, node.channel? ⟨i, lane⟩ = some d → d.unfinished = 0
  accepted : ∀ kind, ∀ s ∈ changesIn (node.hub.overlay.callsOn (namer.topic kind)),
    s.reply = some .ok

theorem quiet_of_single {node : Node} {namer : TopicNamer} (single : node.objects.length = 1)
    (finished : ∀ o ∈ node.objects, ∀ entry ∈ o.lanes, entry.2.unfinished = 0)
    (accepted : ∀ s ∈ node.hub.overlay.calls, s.reply = some .ok) : node.Quiet 0 namer := by
  refine ⟨?_, ?_, ?_⟩
  · exact fun kind a d hd _ => object_of_single single hd
  · exact fun lane d hd => of_lanes (P := fun d => d.unfinished = 0) finished hd
  · intro kind s hs
    exact accepted s (List.mem_of_mem_filter (List.mem_of_mem_filter hs))

section Apart

variable {node : Node} {i : Nat} {c : Controller} {m : Managers} {settings : Settings} {mode : Mode}
  {requested : SubnetId → Prop}

theorem channel?_controller (hc : node.objects[i]? = some (.controller c))
    (hm : c.managers = some m) (lane : Lane) : node.channel? ⟨i, lane⟩ = m.lanes.lookup lane := by
  rw [channel?, hc, Option.bind_some, GossipObject.channel?_started hm]

theorem eq_lane
    (apart : ∀ kind a d, node.channel? a = some d →
      d.topic = (settings.namer m.digest).topic kind → a.object = i)
    (hc : node.objects[i]? = some (.controller c)) (hm : c.managers = some m)
    (ht : m.Tracks settings mode requested) {kind : TopicKind} {a : Address} {d : Channel}
    (hd : node.channel? a = some d) (htopic : d.topic = (settings.namer m.digest).topic kind) :
    a = ⟨i, kind.lane⟩ := by
  obtain ⟨j, lane⟩ := a
  have hj : j = i := apart kind _ d hd htopic
  subst hj
  rw [channel?_controller hc hm] at hd
  obtain ⟨kind', hl, htopic'⟩ := ht.lane_topic hd
  rw [hl, TopicNamer.topic_inj (htopic.symm.trans htopic')]

/-- A topic follows its channel as soon as the channel has no task left and is in the wanted state. -/
theorem follows_of_agreed (hr : node.Rooted)
    (apart : ∀ kind a d, node.channel? a = some d →
      d.topic = (settings.namer m.digest).topic kind → a.object = i)
    (hc : node.objects[i]? = some (.controller c)) (hm : c.managers = some m)
    (ht : m.Tracks settings mode requested) {kind : TopicKind}
    (agreed : ∀ d, node.channel? ⟨i, kind.lane⟩ = some d →
      d.topic = (settings.namer m.digest).topic kind → node.Alone ⟨i, kind.lane⟩ d.topic →
      d.unfinished = 0 ∧ d.confirmed = d.wanted) :
    node.Follows m (settings.namer m.digest) kind := by
  refine ⟨?_, ?_⟩
  · intro hn
    refine (hr.untouched _ ?_).2
    intro a d hd htopic
    rw [eq_lane apart hc hm ht hd htopic, channel?_controller hc hm, hn] at hd
    cases hd
  · intro d hd
    have hd' : node.channel? ⟨i, kind.lane⟩ = some d := (channel?_controller hc hm _).trans hd
    obtain ⟨kind', hl, htopic⟩ := ht.lane_topic hd
    rw [← TopicKind.lane_inj hl] at htopic
    have alone : node.Alone ⟨i, kind.lane⟩ d.topic := fun b d' hb hbt =>
      eq_lane apart hc hm ht hb (hbt.trans htopic)
    obtain ⟨finished, hcw⟩ := agreed d hd' htopic alone
    have hlive := hr.live_of_finished hd' alone finished
    rw [hcw, htopic] at hlive
    exact ⟨hcw, hlive⟩

theorem Quiet.follows (quiet : node.Quiet i (settings.namer m.digest)) (hr : node.Rooted)
    (hc : node.objects[i]? = some (.controller c)) (hm : c.managers = some m)
    (ht : m.Tracks settings mode requested) (kind : TopicKind) :
    node.Follows m (settings.namer m.digest) kind := by
  apply follows_of_agreed hr quiet.apart hc hm ht
  intro d hd htopic alone
  have finished := quiet.finished _ d hd
  refine ⟨finished, hr.at_rest hd alone finished ?_⟩
  rw [htopic]
  exact quiet.accepted kind

end Apart

end Node

namespace Controller

/-- The endpoint that a controller in the mode should have live on a topic of its fork. -/
def Mode.Calls (mode : Mode) (requested : SubnetId → Prop) (namer : TopicNamer) (e : Endpoint) :
    TopicKind → Prop
  | .ofClass cls =>
    cls ≠ .attestation ∧ mode.runs cls = true ∧ e = ⟨cls, namer.topic (.ofClass cls), none⟩
  | .subnet id =>
    mode = .full ∧ requested id ∧ e = ⟨.attestation, namer.topic (.subnet id), some id⟩

/-- The overlay and all that the controller reports are what the mode and the requests call for. -/
structure Converged (c : Controller) (settings : Settings) (mode : Mode)
    (requested : SubnetId → Prop) (o : Overlay) : Prop where
  /-- Before the first start there is nothing to gossip, and requests wait for it. -/
  unstarted : c.managers = none → mode = .stopped ∧ ∀ id, id ∈ c.waiting ↔ requested id
  /-- Exactly the topics that are called for are live, each with its endpoint. -/
  live : ∀ m, c.managers = some m → ∀ kind e,
    o.endpoint? ((settings.namer m.digest).topic kind) = some e ↔
      mode.Calls requested (settings.namer m.digest) e kind
  subscriptions : ∀ m, c.managers = some m →
    m.subscriptions = MessageClass.all.map fun cls => (cls, mode.runs cls)
  subscribed : ∀ id, id ∈ c.subscribedSubnets ↔ mode = .full ∧ requested id
  ascending : c.subscribedSubnets.Pairwise fun a b => a.index < b.index

section Follows

variable {node : Node} {i : Nat} {c : Controller} {m : Managers} {settings : Settings} {mode : Mode}
  {requested : SubnetId → Prop}

theorem wants_iff (ht : m.Tracks settings mode requested) (id : SubnetId) :
    m.attestation.Wants id ↔ mode = .full ∧ requested id := by
  rw [ht.kept.wants, ht.enabled, Mode.runs_attestation, decide_eq_true_eq, ht.requested_iff]

theorem live_of_follows (ht : m.Tracks settings mode requested) {kind : TopicKind}
    (follows : node.Follows m (settings.namer m.digest) kind) (e : Endpoint) :
    node.hub.overlay.endpoint? ((settings.namer m.digest).topic kind) = some e ↔
      mode.Calls requested (settings.namer m.digest) e kind := by
  cases kind with
  | ofClass cls =>
    by_cases hcls : cls = .attestation
    · subst hcls
      rw [follows.absent ?_]
      · simp [Mode.Calls]
      · rw [TopicKind.lane, Managers.lookup_ofClass, ht.topic?_attestation, Option.map_none]
    · obtain ⟨t, hf, hs⟩ := ht.topic? hcls
      have hd : m.lanes.lookup (TopicKind.ofClass cls).lane = some t.channel := by
        rw [TopicKind.lane, Managers.lookup_ofClass, hf, Option.map_some]
      have hw : t.channel.wanted = mode.runs cls := congrArg (·.2.2) hs
      have he : t.channel.endpoint =
          ⟨cls, (settings.namer m.digest).topic (.ofClass cls), none⟩ := congrArg (·.1) hs
      rw [(follows.present _ hd).2, hw, he, Mode.Calls]
      by_cases hmode : mode.runs cls = true <;> simp [hmode, hcls, eq_comm]
  | subnet id =>
    have hwants := wants_iff ht id
    cases hd : m.attestation.channel? id with
    | none =>
      -- A subnet that is wanted has a channel, so this one is not; nor was its topic ever joined.
      rw [follows.absent ((Managers.lookup_subnet m id).trans hd), Mode.Calls]
      constructor
      · intro he
        cases he
      · rintro ⟨hfull, hreq, _⟩
        obtain ⟨d, hd', _⟩ := hwants.2 ⟨hfull, hreq⟩
        rw [hd] at hd'
        cases hd'
    | some d =>
      have he : d.endpoint =
          ⟨.attestation, (settings.namer m.digest).topic (.subnet id), some id⟩ := by
        rw [(ht.kept.endpoint id d hd).1, SubnetSet.endpoint, ht.namer]
      have hw : d.wanted = true ↔ mode = .full ∧ requested id := by
        rw [← hwants, SubnetSet.Wants, hd]
        simp
      rw [(follows.present d ((Managers.lookup_subnet m id).trans hd)).2, Mode.Calls, ← and_assoc,
        ← hw, he]
      by_cases hdw : d.wanted = true <;> simp [hdw, eq_comm]

variable (follows : ∀ kind, node.Follows m (settings.namer m.digest) kind)

include follows

theorem confirmed_of_follows {id : SubnetId} {d : Channel}
    (hd : m.attestation.channel? id = some d) : d.confirmed = d.wanted :=
  ((follows (.subnet id)).present d ((Managers.lookup_subnet m id).trans hd)).1

theorem subscribed_of_follows (ht : m.Tracks settings mode requested) (id : SubnetId) :
    id ∈ m.attestation.subscribed ↔ mode = .full ∧ requested id := by
  rw [ht.kept.ordered.mem_subscribed, ← wants_iff ht id]
  constructor
  · rintro ⟨d, hd, hconf⟩
    exact ⟨d, hd, (confirmed_of_follows follows hd).symm.trans hconf⟩
  · rintro ⟨d, hd, hw⟩
    exact ⟨d, hd, (confirmed_of_follows follows hd).trans hw⟩

theorem isActive_of_follows (ht : m.Tracks settings mode requested) :
    m.attestation.isActive = mode.runs .attestation := by
  rw [SubnetSet.isActive, ht.enabled]
  by_cases hmode : mode.runs .attestation = true
  · rw [hmode, Bool.true_and, List.all_eq_true]
    intro id hid
    have hfull : mode = .full := by simpa [Mode.runs_attestation] using hmode
    obtain ⟨d, hd, hw⟩ := (wants_iff ht id).2 ⟨hfull, (ht.requested_iff id).1 hid⟩
    rw [SubnetSet.isConfirmed, hd, Option.any_some, confirmed_of_follows follows hd, hw]
  · simp [hmode]

theorem subscriptions_of_follows (ht : m.Tracks settings mode requested) :
    m.subscriptions = MessageClass.all.map fun cls => (cls, mode.runs cls) := by
  have hall : MessageClass.all = .attestation :: MessageClass.single := rfl
  have htopics : (m.topics.map fun t => (t.cls, t.isSubscribed)) =
      (m.topics.map (·.standing)).map fun standing => (standing.1.cls, standing.2.2) := by
    rw [List.map_map]
    apply List.map_congr_left
    intro t hmem
    have hd : m.lanes.lookup (TopicKind.ofClass t.cls).lane = some t.channel := by
      rw [TopicKind.lane, Managers.lookup_ofClass, ht.topic?_of_mem hmem, Option.map_some]
    rw [TopicManager.isSubscribed, ((follows (.ofClass t.cls)).present _ hd).1]
    rfl
  rw [Managers.subscriptions, htopics, ht.topics, List.map_map, hall, List.map_cons,
    isActive_of_follows follows ht]
  rfl

end Follows

theorem Tracks.converged {node : Node} {c : Controller} {settings : Settings} {mode : Mode}
    {requested : SubnetId → Prop} (h : c.Tracks settings mode requested)
    (follows : ∀ m, c.managers = some m → ∀ kind, node.Follows m (settings.namer m.digest) kind) :
    c.Converged settings mode requested node.hub.overlay := by
  refine ⟨h.unstarted, ?_, ?_, ?_, ?_⟩
  · exact fun m hm kind => live_of_follows (h.started m hm).2 (follows m hm kind)
  · exact fun m hm => subscriptions_of_follows (follows m hm) (h.started m hm).2
  · intro id
    cases hm : c.managers with
    | none =>
      rw [subscribedSubnets, hm, (h.unstarted hm).1]
      simp
    | some m =>
      rw [subscribedSubnets, hm]
      exact subscribed_of_follows (follows m hm) (h.started m hm).2 id
  · cases hm : c.managers with
    | none =>
      rw [subscribedSubnets, hm]
      exact List.Pairwise.nil
    | some m =>
      rw [subscribedSubnets, hm]
      exact (h.started m hm).2.kept.ordered.subscribed_ascending

open Node (Event Requested)

/-- However its life went, a controller whose tasks have ended, and which was refused nothing, has
brought about what its last start or stop and the last request of each subnet call for. -/
theorem converges {base : Node} (reachable : base.Reachable) (fork : Fork) (settings : Settings)
    (es : List Event)
    (quiet : ∀ c m, (base.runController fork settings es).objects[base.objects.length]? =
        some (.controller c) → c.managers = some m →
      (base.runController fork settings es).Quiet base.objects.length (settings.namer m.digest)) :
    ∃ c, (base.runController fork settings es).objects[base.objects.length]? =
        some (.controller c) ∧
      c.Converged settings
        (.reached base.objects.length
          ((base.after (.addController fork settings)).history es))
        (Requested settings.subnetCount base.objects.length es)
        (base.runController fork settings es).hub.overlay := by
  obtain ⟨c, hc, ht⟩ := (tracksIn_added base fork settings).run es
  have hr := (reachable.rooted.after (.addController fork settings)).run_events es
  refine ⟨c, hc, ht.converged fun m hm kind => ?_⟩
  exact (quiet c m hc hm).follows hr hc hm (ht.started m hm).2 kind

/-- Attestations are turned off while the joins of a full start are still held. -/
theorem converges_after_held_start :
    let es : List Event := [.act 0 (.requestSubnet 3), .setRule (.hold .join none),
      .act 0 (.start .zero false), .runTasks, .act 0 .stopOptimistic,
      .release (.accept .join none), .runTasks, .runTasks]
    let node := Node.genesis.runController .genesis .standard es
    let mode : Mode :=
      .reached 0 ((Node.genesis.after (.addController .genesis .standard)).history es)
    mode = .optimistic ∧ Requested 64 0 es ⟨3⟩ ∧
      ∃ c, node.objects[0]? = some (.controller c) ∧
        c.Converged .standard mode (Requested 64 0 es) node.hub.overlay := by
  intro es node mode
  have hmode : mode = .optimistic := by decide +kernel
  have hlen : node.objects.length = 1 := by decide +kernel
  refine ⟨hmode, ⟨by decide, rfl⟩, converges Node.reachable_genesis .genesis .standard es ?_⟩
  intro _ _ _ _
  exact Node.quiet_of_single hlen (by decide +kernel) (by decide +kernel)

end Controller

end BeaconGossip
