import BeaconGossip.Proofs.Channel.Attempts
import BeaconGossip.Proofs.Controller.Convergence
import BeaconGossip.Proofs.Node.Attribution
import BeaconGossip.Proofs.Node.Later

namespace BeaconGossip

open Overlay

namespace Channel

theorem Grown.requested {before : Option Channel} {d : Channel} (h : Grown before (some d))
    (rest : ∀ c, before = some c → c.unfinished = 0 ∧ c.confirmed = c.wanted) :
    d.change = none ∧ d.confirmed = (before.map (·.wanted)).getD false ∧
      d.generation = (before.map (·.generation)).getD 0 + d.queued ∧
      (d.queued = 0 → d.confirmed = d.wanted) := by
  obtain ⟨e, limit, hs⟩ := h
  cases hs with
  | opened requests =>
    obtain ⟨hchange, hconfirmed, hqueued, hgeneration⟩ :=
      requestAll_fields (.fresh e limit) requests
    -- A new channel is at rest: it is neither wanted nor confirmed.
    refine ⟨hchange, hconfirmed, ?_, ?_⟩
    · rw [hqueued, hgeneration]
      exact (Nat.zero_add _).symm
    · intro hq
      have hz : requests.length = 0 := by
        rw [hqueued] at hq
        omega
      rw [List.eq_nil_of_length_eq_zero hz]
      rfl
  | kept c requests =>
    obtain ⟨hf, hc⟩ := rest c rfl
    obtain ⟨hchange, hconfirmed, hqueued, hgeneration⟩ := requestAll_fields c requests
    have hidle : c.change = none ∧ c.queued = 0 := by
      unfold unfinished at hf
      cases hch : c.change with
      | none => exact ⟨rfl, by omega⟩
      | some ch => simp [hch] at hf
    refine ⟨hchange.trans hidle.1, hconfirmed.trans hc, ?_, ?_⟩
    · rw [hqueued, hgeneration, hidle.2, Nat.zero_add]
      rfl
    · intro hq
      have hz : requests.length = 0 := by
        rw [hqueued] at hq
        omega
      rw [List.eq_nil_of_length_eq_zero hz]
      exact hc

end Channel

namespace Node

open Channel (Attempted poll_endpoint)

/-- A channel of the object wants the topic to be joined. -/
def Wants (node : Node) (i : Nat) (topic : String) : Prop :=
  ∃ lane d, node.channel? ⟨i, lane⟩ = some d ∧ d.topic = topic ∧ d.wanted = true

/-- The object has no tasks left, and its channels are confirmed in the wanted states. -/
def AtRest (node : Node) (i : Nat) : Prop :=
  ∀ lane d, node.channel? ⟨i, lane⟩ = some d → d.unfinished = 0 ∧ d.confirmed = d.wanted

instance (node : Node) (i : Nat) : Decidable (node.AtRest i) :=
  decidable_of_iff _ forall_channel_iff

/-- The object has just this channel for the topic. -/
structure HasOnly (node : Node) (i : Nat) (topic : String) (lane : Lane) (d : Channel) : Prop where
  found : node.channel? ⟨i, lane⟩ = some d
  topic_eq : d.topic = topic
  unique : ∀ lane' x, node.channel? ⟨i, lane'⟩ = some x → x.topic = topic → lane' = lane

def Lacks (node : Node) (i : Nat) (topic : String) : Prop :=
  ∀ lane d, node.channel? ⟨i, lane⟩ = some d → d.topic ≠ topic

variable {before burst : Node} {i : Nat} {topic : String} {lane : Lane} {d : Channel}

theorem HasOnly.wants_iff (h : burst.HasOnly i topic lane d) :
    burst.Wants i topic ↔ d.wanted = true := by
  constructor
  · rintro ⟨lane', x, hx, ht, hw⟩
    rw [h.unique lane' x hx ht, h.found, Option.some.injEq] at hx
    rw [hx]
    exact hw
  · exact fun hw => ⟨lane, d, h.found, h.topic_eq, hw⟩

/-- What was wanted of the topic before, when the channel may not have been there yet. -/
theorem HasOnly.wanted_iff (h : burst.HasOnly i topic lane d) (served : before.Serves burst)
    (ordered : before.Ordered) :
    before.Wants i topic ↔ ((before.channel? ⟨i, lane⟩).map (·.wanted)).getD false = true := by
  constructor
  · rintro ⟨lane', x, hx, ht, hw⟩
    obtain ⟨x', hx', he⟩ := served.advance.channel? ordered hx
    rw [h.unique lane' x' hx' ((congrArg Endpoint.topic he).trans ht)] at hx
    rw [hx, Option.map_some, Option.getD_some, hw]
  · intro hw
    cases hx : before.channel? ⟨i, lane⟩ with
    | none =>
      rw [hx] at hw
      cases hw
    | some x =>
      rw [hx, Option.map_some, Option.getD_some] at hw
      obtain ⟨x', hx', he⟩ := served.advance.channel? ordered hx
      rw [h.found, Option.some.injEq] at hx'
      subst hx'
      exact ⟨lane, x, hx, (congrArg Endpoint.topic he).symm.trans h.topic_eq, hw⟩

/-- The channel that the object has for the topic, with what has become of it since the start. -/
def Tried (start : Channel) (i : Nat) (topic : String) (lane : Lane) (node : Node)
    (own : List Nat) : Prop :=
  ∃ d, node.HasOnly i topic lane d ∧ Attempted start own d (node.hub.overlay.callsOn topic)

section Turns

variable {node node' : Node} {own : List Nat} {start : Channel}

theorem unique_poll (b : Address)
    (unique : ∀ lane' x, node.channel? ⟨i, lane'⟩ = some x → x.topic = topic → lane' = lane) :
    ∀ lane' x, (node.poll b).channel? ⟨i, lane'⟩ = some x → x.topic = topic → lane' = lane := by
  intro lane' x hx ht
  obtain ⟨y, hy, he⟩ := endpoint_of_poll b hx
  exact unique lane' y hy ((congrArg Endpoint.topic he).symm.trans ht)

theorem Tried.turn (b : Address) (h : Tried start i topic lane node own) :
    Tried start i topic lane (node.poll b) (own ++ node.madeInTurn i topic b) := by
  obtain ⟨d, only, attempted⟩ := h
  have unique := unique_poll b only.unique
  by_cases hb : b = ⟨i, lane⟩
  · subst hb
    have ht := only.topic_eq
    subst ht
    have polled := attempted.poll
    have hhub : (node.poll ⟨i, lane⟩).hub = (d.poll node.hub).2 := by rw [poll_some only.found]
    rw [← hhub] at polled
    rw [madeInTurn, if_pos rfl]
    refine ⟨(d.poll node.hub).1, ⟨?_, ?_, unique⟩, polled⟩
    · rw [channel?_poll only.found, if_pos rfl]
    · exact congrArg Endpoint.topic (poll_endpoint d node.hub)
  · -- Another object makes calls of its own, and another channel of this one none on the topic.
    have apart : ∀ x, node.channel? b = some x → b.object = i → x.topic ≠ topic := by
      rintro x hx rfl ht
      exact hb (congrArg (Address.mk b.object) (only.unique b.lane x hx ht))
    rw [madeInTurn_apart b apart, List.append_nil]
    refine ⟨d, ⟨?_, only.topic_eq, unique⟩, attempted.extends ((Advance.turn node b).extends topic)⟩
    cases hx : node.channel? b with
    | none =>
      rw [poll_none hx]
      exact only.found
    | some x => rw [channel?_poll hx, if_neg (Ne.symm hb), only.found]

theorem Tried.spared (h : Tried start i topic lane node own) (spares : Spares i node node') :
    Tried start i topic lane node' own := by
  obtain ⟨d, only, attempted⟩ := h
  refine ⟨d, ⟨?_, only.topic_eq, ?_⟩, attempted.extends (spares.passes topic).extends⟩
  · rw [spares.channel?]
    exact only.found
  · intro lane' x hx
    rw [spares.channel?] at hx
    exact only.unique lane' x hx

theorem Lacks.turn (b : Address) (h : node.Lacks i topic) :
    (node.poll b).Lacks i topic ∧ node.madeInTurn i topic b = [] := by
  constructor
  · intro lane d hd ht
    obtain ⟨y, hy, he⟩ := endpoint_of_poll b hd
    exact h lane y hy ((congrArg Endpoint.topic he).symm.trans ht)
  · apply madeInTurn_apart
    rintro d hd rfl
    exact h b.lane d hd

theorem Lacks.spared (h : node.Lacks i topic) (spares : Spares i node node') :
    node'.Lacks i topic := by
  intro lane d hd
  rw [spares.channel?] at hd
  exact h lane d hd

end Turns

end Node

namespace Controller

open Channel (Attempted attempted_start)
open Node (Event Spares)

variable {node : Node} {i : Nat} {c : Controller} {topic : String}

theorem TracksIn.lane_eq {settings : Settings} {mode : Mode} {es : List Event}
    (h : TracksIn settings mode es node i) {lane lane' : Lane} {d d' : Channel}
    (hd : node.channel? ⟨i, lane⟩ = some d) (hd' : node.channel? ⟨i, lane'⟩ = some d')
    (topic : d.topic = d'.topic) : lane = lane' := by
  obtain ⟨c, hc, ht⟩ := h
  cases hm : c.managers with
  | none =>
    rw [Node.channel?, hc, Option.bind_some, GossipObject.channel?_stopped hm] at hd
    cases hd
  | some m =>
    rw [Node.channel?_controller hc hm] at hd hd'
    obtain ⟨kind, hl, hk⟩ := (ht.started m hm).2.lane_topic hd
    obtain ⟨kind', hl', hk'⟩ := (ht.started m hm).2.lane_topic hd'
    rw [hk, hk'] at topic
    rw [hl, hl', TopicNamer.topic_inj topic]

/-- What turns and the doings of others preserve holds after any run in which the controller is not
asked for anything. -/
theorem run_preserves (P : Node → List Nat → Prop)
    (turn : ∀ {node own} a, P node own → P (node.poll a) (own ++ node.madeInTurn i topic a))
    (spared : ∀ {node node' own}, Spares i node node' → P node own → P node' own)
    (hc : node.objects[i]? = some (.controller c)) {es : List Event}
    (unasked : ∀ act, .act i act ∉ es) {own : List Nat} (h : P node own) :
    P (node.run es) (own ++ node.madeDuring i topic es) := by
  induction es generalizing node c own with
  | nil =>
    rw [Node.madeDuring, List.append_nil]
    exact h
  | cons e es ih =>
    have he : ∀ act, e ≠ .act i act := by
      rintro act rfl
      exact unasked act List.mem_cons_self
    have hi := (List.getElem?_eq_some_iff.1 hc).1
    obtain ⟨c', hc', _⟩ := turned_after hc he
    rw [Node.madeDuring, ← List.append_assoc]
    exact ih hc' (fun act hm => unasked act (List.mem_cons_of_mem e hm))
      (Node.after_preserves P turn spared hi he h)

/-- What a burst of operations comes to on a topic, given the calls that the controller makes there
from the burst on until all its tasks have ended. -/
structure Traffic (before burst : Node) (i : Nat) (topic : String) (calls : List Call) : Prop where
  joined : (∀ s ∈ calls, s.reply = some .ok) → ¬ before.Wants i topic → burst.Wants i topic →
    ∃ e : Endpoint, e.topic = topic ∧ calls.map (·.action) = [.join e]
  left : (∀ s ∈ calls, s.reply = some .ok) → before.Wants i topic → ¬ burst.Wants i topic →
    calls.map (·.action) = [.leave]
  silent : (before.Wants i topic ↔ burst.Wants i topic) → calls = []
  /-- If the overlay refuses all of them, there is one for each request. -/
  retried : (∀ s ∈ calls, s.reply ≠ some .ok) → ∀ lane d,
    burst.channel? ⟨i, lane⟩ = some d → d.topic = topic → d.confirmed ≠ d.wanted →
    calls.map (·.action) =
      List.replicate (burst.generation ⟨i, lane⟩ - before.generation ⟨i, lane⟩) d.action

section Burst

variable {before burst : Node}

theorem traffic_of_attempted (served : before.Serves burst) (ordered : before.Ordered)
    (rest : before.AtRest i) {lane : Lane} {d d' : Channel} (only : burst.HasOnly i topic lane d)
    {own : List Nat} {calls : List Call} (attempted : Attempted d own d' calls)
    (finished : d'.unfinished = 0) : Traffic before burst i topic (callsAt own calls) := by
  have hg := served.grown ordered ⟨i, lane⟩
  rw [only.found] at hg
  obtain ⟨_, hconfirmed, hgeneration, hqueued⟩ := hg.requested fun c hc => rest lane c hc
  have hwants := only.wants_iff
  have hwanted := only.wanted_iff served ordered
  rw [← hconfirmed] at hwanted
  have hpositive : d.confirmed ≠ d.wanted → 0 < d.queued :=
    fun hne => Nat.pos_of_ne_zero fun hz => hne (hqueued hz)
  have hrequests : burst.generation ⟨i, lane⟩ - before.generation ⟨i, lane⟩ = d.queued := by
    rw [Node.generation, Node.generation, only.found, Option.map_some, Option.getD_some, hgeneration]
    omega
  have once (accepted : ∀ s ∈ callsAt own calls, s.reply = some .ok)
      (differ : d.confirmed ≠ d.wanted) : (callsAt own calls).map (·.action) = [d.action] := by
    have hlength := attempted.accepted finished differ (hpositive differ) accepted
    rw [attempted.actions_eq, hlength, List.replicate_one]
  refine ⟨?_, ?_, ?_, ?_⟩
  · intro accepted hbefore hafter
    have hw := hwants.1 hafter
    have differ : d.confirmed ≠ d.wanted := fun he => hbefore (hwanted.2 (he.trans hw))
    refine ⟨d.endpoint, only.topic_eq, ?_⟩
    rw [once accepted differ, Channel.action, Endpoint.switch, if_pos hw]
  · intro accepted hbefore hafter
    have hw : ¬ d.wanted = true := fun hw => hafter (hwants.2 hw)
    have differ : d.confirmed ≠ d.wanted := fun he => hw (he.symm.trans (hwanted.1 hbefore))
    rw [once accepted differ, Channel.action, Endpoint.switch, if_neg hw]
  · intro hsame
    rw [hwanted, hwants, Bool.coe_iff_coe] at hsame
    rw [attempted.silent hsame]
    rfl
  · intro refused lane' x hx ht differ
    have hl := only.unique lane' x hx ht
    subst hl
    rw [only.found, Option.some.injEq] at hx
    subst hx
    rw [attempted.actions_eq, attempted.refused finished differ refused, hrequests]

theorem traffic_of_lacks (served : before.Serves burst) (ordered : before.Ordered)
    (lacks : burst.Lacks i topic) : Traffic before burst i topic [] := by
  refine ⟨?_, ?_, fun _ => rfl, ?_⟩
  · rintro _ _ ⟨lane, d, hd, ht, _⟩
    exact (lacks lane d hd ht).elim
  · rintro _ ⟨lane, d, hd, ht, _⟩
    obtain ⟨d', hd', he⟩ := served.advance.channel? ordered hd
    exact (lacks lane d' hd' ((congrArg Endpoint.topic he).trans ht)).elim
  · intro _ lane d hd ht
    exact (lacks lane d hd ht).elim

theorem traffic_of_run {settings : Settings} {mode : Mode} {es ops turns : List Event}
    (ordered : before.Ordered) (rest : before.AtRest i) (unturned : ∀ e ∈ ops, e.isTurn = false)
    (unasked : ∀ act, .act i act ∉ turns) (tracks : TracksIn settings mode es (before.run ops) i)
    (finished : (before.run (ops ++ turns)).Finished i) :
    Traffic before (before.run ops) i topic (before.callsBy i (ops ++ turns) topic) := by
  have served : before.Serves (before.run ops) := Node.serves_run unturned
  have ⟨c, hc, _⟩ := tracks
  rw [← Node.run_run] at finished
  rw [Node.callsBy, Node.madeDuring_append, Node.madeDuring_of_unturned unturned, ← Node.run_run]
  by_cases open? : ∃ lane d, (before.run ops).channel? ⟨i, lane⟩ = some d ∧ d.topic = topic
  · obtain ⟨lane, d, hd, ht⟩ := open?
    have only : (before.run ops).HasOnly i topic lane d :=
      ⟨hd, ht, fun lane' x hx hxt => tracks.lane_eq hx hd (hxt.trans ht.symm)⟩
    have hg := served.grown ordered ⟨i, lane⟩
    rw [hd] at hg
    obtain ⟨idle, _⟩ := hg.requested fun c hc => rest lane c hc
    have start : Node.Tried d i topic lane (before.run ops) [] :=
      ⟨d, only, attempted_start idle _⟩
    obtain ⟨d', only', attempted⟩ :=
      run_preserves _ (fun b h => h.turn b) (fun spares h => h.spared spares) hc unasked start
    exact traffic_of_attempted served ordered rest only attempted (finished lane d' only'.found)
  · have lacks : (before.run ops).Lacks i topic := fun lane d hd ht => open? ⟨lane, d, hd, ht⟩
    obtain ⟨_, hown⟩ :=
      run_preserves (fun node own => node.Lacks i topic ∧ own = [])
        (fun b h => ⟨(h.1.turn b).1, by rw [h.2, (h.1.turn b).2]; rfl⟩)
        (fun spares h => ⟨h.1.spared spares, h.2⟩) hc unasked ⟨lacks, rfl⟩
    rw [hown]
    exact traffic_of_lacks served ordered lacks

end Burst

/-- A controller at rest is asked for things, and then its tasks run until they have ended, among those
of others. Whatever it was asked for, it calls each topic as often as that takes and no more. -/
theorem calls_no_more_than_needed {base : Node} (reachable : base.Reachable) (fork : Fork)
    (settings : Settings) (es : List Event)
    (rest : (base.runController fork settings es).AtRest base.objects.length)
    {ops turns : List Event} (unturned : ∀ e ∈ ops, e.isTurn = false)
    (unasked : ∀ act, .act base.objects.length act ∉ turns)
    (finished : ((base.runController fork settings es).run (ops ++ turns)).Finished
      base.objects.length) (topic : String) :
    Traffic (base.runController fork settings es) ((base.runController fork settings es).run ops)
      base.objects.length topic
      ((base.runController fork settings es).callsBy base.objects.length (ops ++ turns) topic) := by
  have ordered : (base.runController fork settings es).Ordered :=
    ((reachable.rooted.after (.addController fork settings)).run_events es).ordered
  have tracks := (tracksIn_added base fork settings).run (es ++ ops)
  rw [← Node.run_run] at tracks
  exact traffic_of_run ordered rest unturned unasked tracks finished

/-- A subnet is asked for, given up by a stop and asked for again before any task runs, and then its
topic refuses. It is tried three times; another controller has it tried once more. -/
theorem calls_refused_three_times :
    let topic := "/eth2/00000000/beacon_attestation_5/ssz_snappy"
    let before := Node.genesis.runController .genesis .standard
      [.act 0 (.requestSubnet 3), .act 0 (.start .zero false), .runTasks,
        .setRule (.refuse .join (some topic) "refused"), .addController .genesis .standard]
    let ops : List Event := [.act 0 (.releaseSubnet 3), .act 0 (.requestSubnet 5), .act 0 .stop,
      .act 1 (.requestSubnet 5), .act 1 (.start .zero false), .act 0 (.start .zero false)]
    let burst := before.run ops
    let last := before.run (ops ++ [.runTasks])
    Traffic before burst 0 topic (before.callsBy 0 (ops ++ [.runTasks]) topic) ∧
      (before.callsBy 0 (ops ++ [.runTasks]) topic).map (·.action) =
        List.replicate 3 (.join ⟨.attestation, topic, some ⟨5⟩⟩) ∧
      (last.hub.overlay.callsOn topic).length = 4 := by
  intro topic before ops burst last
  let d := (burst.channel? ⟨0, .subnet ⟨5⟩⟩).getD (.fresh ⟨.attestation, topic, some ⟨5⟩⟩ 0)
  have rest : before.AtRest 0 := by decide +kernel
  have finished : last.Finished 0 := by decide +kernel
  have unturned : ∀ e ∈ ops, e.isTurn = false := by decide
  have unasked : ∀ act, .act 0 act ∉ [Event.runTasks] := fun act hm => by simp at hm
  have traffic : Traffic before burst 0 topic (before.callsBy 0 (ops ++ [.runTasks]) topic) :=
    calls_no_more_than_needed Node.reachable_genesis .genesis .standard _ rest unturned unasked
      finished topic
  have hd : burst.channel? ⟨0, .subnet ⟨5⟩⟩ = some d := by decide +kernel
  have on : d.topic = topic := by decide +kernel
  have differ : d.confirmed ≠ d.wanted := by decide +kernel
  have action : d.action = .join ⟨.attestation, topic, some ⟨5⟩⟩ := by decide +kernel
  have requests : burst.generation ⟨0, .subnet ⟨5⟩⟩ - before.generation ⟨0, .subnet ⟨5⟩⟩ = 3 := by
    decide +kernel
  have refused : ∀ s ∈ before.callsBy 0 (ops ++ [.runTasks]) topic, s.reply ≠ some .ok := by
    decide +kernel
  have four : (last.hub.overlay.callsOn topic).length = 4 := by decide +kernel
  refine ⟨traffic, ?_, four⟩
  rw [traffic.retried refused _ d hd on differ, requests, action]

end Controller

end BeaconGossip
