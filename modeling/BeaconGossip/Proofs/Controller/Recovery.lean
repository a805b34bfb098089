import BeaconGossip.Proofs.Channel.Renewal
import BeaconGossip.Proofs.Controller.Convergence
import BeaconGossip.Proofs.Node.Later

namespace BeaconGossip

open Overlay
open Controller (Mode)

namespace Channel

/-- The channel, if there is one, has been requested something. -/
def Asked (before after : Option Channel) : Prop :=
  ∀ d, before = some d → ∃ d', after = some d' ∧ d.generation < d'.generation

theorem Served.generation_le {start d : Channel} {after : Option Channel}
    (h : Served start (some d) after) : ∃ d', after = some d' ∧ d.generation ≤ d'.generation := by
  cases h with
  | kept _ requests =>
    obtain ⟨_, _, _, hgeneration⟩ := requestAll_fields d requests
    exact ⟨_, rfl, by omega⟩

theorem Asked.served {start : Channel} {before middle after : Option Channel}
    (h : Asked before middle) (hs : Served start middle after) : Asked before after := by
  intro d hd
  obtain ⟨d', hd', hlt⟩ := h d hd
  rw [hd'] at hs
  obtain ⟨d'', hd'', hle⟩ := hs.generation_le
  exact ⟨d'', hd'', Nat.lt_of_lt_of_le hlt hle⟩

theorem Served.asked {start : Channel} {before middle after : Option Channel}
    (hs : Served start before middle) (h : Asked middle after) : Asked before after := by
  intro d hd
  rw [hd] at hs
  obtain ⟨d', hd', hle⟩ := hs.generation_le
  obtain ⟨d'', hd'', hlt⟩ := h d' hd'
  exact ⟨d'', hd'', Nat.lt_of_le_of_lt hle hlt⟩

theorem asked_request (before : Option Channel) (start : Channel) (wanted : Bool) :
    Asked before (some ((before.getD start).request wanted)) := by
  intro d hd
  subst hd
  exact ⟨_, rfl, Nat.lt_succ_self _⟩

theorem asked_map_request (before : Option Channel) (wanted : Bool) :
    Asked before (before.map (·.request wanted)) := by
  intro d hd
  subst hd
  exact ⟨_, rfl, Nat.lt_succ_self _⟩

theorem Sound.renewed_requestAll {k : Nat} {c : Channel} {calls : List Call} {live : Option Endpoint}
    (hs : c.Sound calls live) (le : k ≤ calls.length) {requests : List Bool}
    (asked : requests ≠ []) : (c.requestAll requests).Renewed k calls := by
  induction requests generalizing c with
  | nil => exact (asked rfl).elim
  | cons wanted rest ih =>
    by_cases hrest : rest = []
    · subst hrest
      exact hs.renewed_request le wanted
    · exact ih (hs.request wanted) hrest

end Channel

open Channel (Asked asked_request asked_map_request requestAll_endpoint)

namespace SubnetSet

theorem asked_joinAll {ids : List SubnetId} {id : SubnetId} (hid : id ∈ ids) {s : SubnetSet}
    (ordered : s.Ordered) :
    Asked (s.channel? id)
      ((ids.foldl (fun s id => s.withChannel id Channel.subscribe) s).channel? id) := by
  induction ids generalizing s with
  | nil => cases hid
  | cons x rest ih =>
    rw [List.foldl_cons]
    have ordered' := ordered.withChannel x Channel.subscribe
    by_cases hx : id = x
    · subst hx
      have asked : Asked (s.channel? id) ((s.withChannel id Channel.subscribe).channel? id) := by
        rw [ordered.channel?_withChannel, if_pos rfl]
        exact asked_request _ _ true
      exact asked.served ((serves_joinAll rest _).served ordered' id)
    · have hrest := (List.mem_cons.1 hid).resolve_left hx
      exact ((serves_withChannel s x true).served ordered id).asked (ih hrest ordered')

end SubnetSet

namespace Managers

theorem asked_topic {m m' : Managers} (wanted : Bool)
    (topics : m'.topics = m.topics.map fun t => ⟨t.channel.request wanted⟩) (c : MessageClass) :
    Asked (m.lanes.lookup (.ofClass c)) (m'.lanes.lookup (.ofClass c)) := by
  have hfind : m'.topic? c = (m.topic? c).map fun t => ⟨t.channel.request wanted⟩ := by
    have hcls : ∀ t : TopicManager, TopicManager.cls ⟨t.channel.request wanted⟩ = t.cls := fun _ => rfl
    rw [topic?, topic?, topics]
    exact topic?_map hcls c
  rw [lookup_ofClass, lookup_ofClass, hfind, Option.map_map]
  intro d hd
  obtain ⟨t, ht, rfl⟩ := Option.map_eq_some_iff.1 hd
  rw [ht]
  exact ⟨_, rfl, Nat.lt_succ_self _⟩

theorem asked_unsubscribe (m : Managers) (lane : Lane) :
    Asked (m.lanes.lookup lane) ((m.unsubscribe true).lanes.lookup lane) := by
  cases lane with
  | sole =>
    intro d hd
    rw [lookup_sole] at hd
    cases hd
  | subnet id =>
    have hattestation : (m.unsubscribe true).attestation = m.attestation.unsubscribe := rfl
    rw [lookup_subnet, lookup_subnet, hattestation, SubnetSet.channel?_unsubscribe]
    exact asked_map_request _ false
  | ofClass c => exact asked_topic false rfl c

theorem asked_subscribe {m : Managers} (ordered : m.attestation.Ordered) {kind : TopicKind}
    (due : ∀ id, kind = .subnet id → id ∈ m.attestation.requested) :
    Asked (m.lanes.lookup kind.lane) ((m.subscribe false).lanes.lookup kind.lane) := by
  cases kind with
  | subnet id =>
    have hattestation : (m.subscribe false).attestation = m.attestation.subscribe := rfl
    rw [TopicKind.lane, lookup_subnet, lookup_subnet, hattestation]
    exact SubnetSet.asked_joinAll (due id rfl) (s := { m.attestation with enabled := true }) ordered
  | ofClass c =>
    refine asked_topic true ?_ c
    rw [subscribe]
    apply List.map_congr_left
    intro t _
    exact if_pos (by simp [mayRun])

end Managers

namespace Node

section Agreed

variable {before node last : Node} {a : Address} {d d' : Channel}

theorem agreed_of_opened (hr : before.Rooted) (advances : Advances before last)
    (hd : before.channel? a = none) (hd' : last.channel? a = some d') (alone : last.Alone a d'.topic)
    (finished : d'.unfinished = 0)
    (accepted : ∀ s ∈ last.changesSince before d'.topic, s.reply = some .ok) :
    d'.confirmed = d'.wanted := by
  have hs := (advances.rooted hr).sound hd' alone
  have unused : before.Unused d'.topic := by
    intro b d hb ht
    rw [alone.earlier advances hr.ordered b d hb ht, hd] at hb
    cases hb
  have untouched := (hr.untouched _ unused).1
  apply hs.agreed (hs.idle_of_finished finished).2
  intro s hm r hreply
  have hm' := mem_changesSince_of_none (advances.extends _) untouched hm
  rw [accepted s hm', Option.some.injEq] at hreply
  exact hreply.symm

/-- A request to a channel that was there renews it, whatever its calls have come to before. -/
theorem renewed_of_asked (hr : before.Rooted) (served : before.Serves node)
    (hd : before.channel? a = some d) (hd' : node.channel? a = some d')
    (asked : d.generation < d'.generation) (alone : node.Alone a d'.topic) :
    d'.Renewed (before.hub.overlay.callsOn d'.topic).length
      (node.hub.overlay.callsOn d'.topic) := by
  obtain ⟨e, limit, hg⟩ := served.grown hr.ordered a
  rw [hd, hd'] at hg
  cases hg with
  | kept _ requests =>
    have hrequests : requests ≠ [] := by
      rintro rfl
      exact Nat.lt_irrefl _ asked
    rw [Channel.topic, requestAll_endpoint] at alone ⊢
    have hs := hr.sound hd (alone.earlier (.single served.advance) hr.ordered)
    exact (hs.renewed_requestAll (Nat.le_refl _) hrequests).extends (served.passes _).extends

/-- A channel that has its topic for itself and has been asked for something ends up in the wanted
state, if no call fails that was made since a moment before. -/
theorem agreed_since (hr : before.Rooted) (served : before.Serves node)
    (advances : Advances node last) (hd' : last.channel? a = some d')
    (alone : last.Alone a d'.topic) (finished : d'.unfinished = 0)
    (accepted : ∀ s ∈ last.changesSince before d'.topic, s.reply = some .ok)
    (asked : Asked (before.channel? a) (node.channel? a)) : d'.confirmed = d'.wanted := by
  have whole : Advances before last := .head served.advance advances
  cases hd : before.channel? a with
  | none => exact agreed_of_opened hr whole hd hd' alone finished accepted
  | some d =>
    have ordered := served.ordered hr.ordered
    obtain ⟨d₁, hd₁, hlt⟩ := asked d hd
    have alone' : ∀ x, last.channel? a = some x → last.Alone a x.topic := by
      intro x hx
      rw [hd', Option.some.injEq] at hx
      subst hx
      exact alone
    obtain ⟨d₂, es, hd₂, later⟩ := advances.continues ordered alone' d₁ hd₁
    rw [hd', Option.some.injEq] at hd₂
    subst hd₂
    -- The request renews the channel, and whatever comes after it leaves it so.
    have ht₁ : d'.topic = d₁.topic := congrArg Endpoint.topic later.endpoint_eq
    have hs := (whole.rooted hr).sound hd' alone
    rw [ht₁] at alone
    have alone₁ := alone.earlier advances ordered
    have hs₁ := (served.advance.rooted hr).sound hd₁ alone₁
    have renewed := later.renewed hs₁ (renewed_of_asked hr served hd hd₁ hlt alone₁)
    rw [← ht₁] at renewed
    exact renewed.agreed hs finished accepted

end Agreed

/-- Only the object uses the topics, its tasks have ended, and no join or leave of the topics has
failed that was made since. -/
structure QuietSince (node before : Node) (i : Nat) (namer : TopicNamer) : Prop where
  apart : ∀ kind a d, node.channel? a = some d → d.topic = namer.topic kind → a.object = i
  finished : node.Finished i
  accepted : ∀ kind, ∀ s ∈ node.changesSince before (namer.topic kind), s.reply = some .ok

theorem quietSince_of_single {node before : Node} {namer : TopicNamer}
    (single : node.objects.length = 1) (finished : node.Finished 0)
    (accepted : ∀ s ∈ node.hub.overlay.calls, s ∈ node.changesSince before s.topic →
      s.reply = some .ok) : node.QuietSince before 0 namer := by
  refine ⟨?_, finished, ?_⟩
  · exact fun kind a d hd _ => object_of_single single hd
  · intro kind s hs
    obtain ⟨hmem, htopic⟩ := List.mem_filter.1 (List.mem_of_mem_drop (List.mem_of_mem_filter hs))
    rw [decide_eq_true_eq] at htopic
    rw [← htopic] at hs
    exact accepted s hmem hs

theorem follows_since {before node last : Node} (hr : before.Rooted) (served : before.Serves node)
    (advances : Advances node last) {i : Nat} {c : Controller} {m : Managers} {settings : Settings}
    {mode : Mode} {requested : SubnetId → Prop}
    (quiet : last.QuietSince before i (settings.namer m.digest))
    (hc : last.objects[i]? = some (.controller c)) (hm : c.managers = some m)
    (ht : m.Tracks settings mode requested) {kind : TopicKind}
    (asked : Asked (before.channel? ⟨i, kind.lane⟩) (node.channel? ⟨i, kind.lane⟩)) :
    last.Follows m (settings.namer m.digest) kind := by
  have whole : Advances before last := .head served.advance advances
  apply follows_of_agreed (whole.rooted hr) quiet.apart hc hm ht
  intro d hd htopic alone
  have finished := quiet.finished _ d hd
  have accepted := quiet.accepted kind
  rw [← htopic] at accepted
  exact ⟨finished, agreed_since hr served advances hd alone finished accepted asked⟩

end Node

namespace Controller

open Node (Event Requested)

variable {node : Node} {i : Nat} {c c' : Controller} {m : Managers}

theorem start_again (hm : c.managers = some m) (waiting : c.waiting = []) (root : Root)
    (optimistic : Bool) (schedule : Schedule) (r : Registry) :
    c.start root optimistic schedule r =
      .ok ({ c with managers := some (m.subscribe optimistic) }, schedule, r) := by
  have hand : c.handOver r = (c, r) := by
    obtain ⟨fork, settings, managers, ids⟩ := c
    simp only at hm waiting
    subst hm waiting
    rfl
  rw [start_started hm, hand, subscribe, hm]
  rfl

theorem Turned.digest (h : c.Turned c') : c'.digest = c.digest := by
  induction h with
  | same => rfl
  | @turn c' lane d hub _ _ ih =>
    refine Eq.trans ?_ ih
    rw [Controller.digest, Controller.digest, Option.map_map]
    congr 1
    funext m
    cases lane <;> rfl

/-- The node has the controller, which has been started at the digest and tracks the mode and the
requests. -/
def StartedIn (node : Node) (i : Nat) (settings : Settings) (digest : ForkDigest) (mode : Mode)
    (requested : SubnetId → Prop) : Prop :=
  ∃ c m, node.objects[i]? = some (.controller c) ∧ c.managers = some m ∧ m.digest = digest ∧
    c.Tracks settings mode requested

section StartedIn

variable {settings : Settings} {digest : ForkDigest} {mode : Mode} {requested : SubnetId → Prop}

theorem StartedIn.rest (h : StartedIn node i settings digest mode requested) {es : List Event}
    (unasked : ∀ act, .act i act ∉ es) : StartedIn (node.run es) i settings digest mode requested := by
  obtain ⟨c, m, hc, hm, rfl, ht⟩ := h
  obtain ⟨c', hc', turned⟩ := turned_run hc unasked
  have hdigest := turned.digest
  rw [Controller.digest, Controller.digest, hm] at hdigest
  obtain ⟨m', hm', he⟩ := Option.map_eq_some_iff.1 hdigest
  exact ⟨c', m', hc', hm', he, ht.turns turned⟩

theorem StartedIn.stop (h : StartedIn node i settings digest mode requested) :
    StartedIn (node.after (.act i .stop)) i settings digest .stopped requested := by
  obtain ⟨c, m, hc, hm, rfl, ht⟩ := h
  have hm' : c.stop.managers = some (m.unsubscribe true) := by
    rw [Controller.stop, hm]
    rfl
  exact ⟨c.stop, _, objects_perform hc .stop, hm', rfl, ht.stop⟩

theorem objects_start_again (hc : node.objects[i]? = some (.controller c))
    (hm : c.managers = some m) (ht : c.Tracks settings mode requested) (root : Root)
    (optimistic : Bool) :
    (node.after (.act i (.start root optimistic))).objects[i]? =
        some (.controller { c with managers := some (m.subscribe optimistic) }) ∧
      Controller.Tracks { c with managers := some (m.subscribe optimistic) } settings
        (mode.start optimistic) requested := by
  have hs := start_again hm (ht.started m hm).1 root optimistic node.schedule node.hub.registry
  have hc' := objects_perform hc (.start root optimistic)
  rw [performed, hs] at hc'
  exact ⟨hc', ht.start hs⟩

theorem StartedIn.start (h : StartedIn node i settings digest mode requested) (root : Root) :
    StartedIn (node.after (.act i (.start root false))) i settings digest .full requested := by
  obtain ⟨c, m, hc, hm, rfl, ht⟩ := h
  obtain ⟨hc', ht'⟩ := objects_start_again hc hm ht root false
  exact ⟨_, m.subscribe false, hc', rfl, rfl, ht'⟩

theorem StartedIn.asked_stop (h : StartedIn node i settings digest mode requested) (lane : Lane) :
    Asked (node.channel? ⟨i, lane⟩) ((node.after (.act i .stop)).channel? ⟨i, lane⟩) := by
  obtain ⟨c, m, hc, hm, _⟩ := h
  have hc' : (node.after (.act i .stop)).objects[i]? = some (.controller c.stop) :=
    objects_perform hc .stop
  have hm' : c.stop.managers = some (m.unsubscribe true) := by
    rw [Controller.stop, hm]
    rfl
  rw [Node.channel?_controller hc hm, Node.channel?_controller hc' hm']
  exact m.asked_unsubscribe lane

theorem StartedIn.asked_start (h : StartedIn node i settings digest mode requested) (root : Root)
    {kind : TopicKind} (due : ∀ id, kind = .subnet id → requested id) :
    Asked (node.channel? ⟨i, kind.lane⟩)
      ((node.after (.act i (.start root false))).channel? ⟨i, kind.lane⟩) := by
  obtain ⟨c, m, hc, hm, _, ht⟩ := h
  have htracks := (ht.started m hm).2
  rw [Node.channel?_controller hc hm,
    Node.channel?_controller (objects_start_again hc hm ht root false).1 rfl]
  refine Managers.asked_subscribe htracks.kept.ordered fun id hid => ?_
  exact (htracks.requested_iff id).2 (due id hid)

/-- Once every channel has been asked for something, and no later call has failed, the controller has
brought about what its mode and the requests call for. -/
theorem StartedIn.converged {before last : Node} (hr : before.Rooted) (served : before.Serves node)
    (advances : Node.Advances node last) (h : StartedIn last i settings digest mode requested)
    (quiet : last.QuietSince before i (settings.namer digest))
    (asked : ∀ lane, Asked (before.channel? ⟨i, lane⟩) (node.channel? ⟨i, lane⟩)) :
    ∃ c, last.objects[i]? = some (.controller c) ∧ c.digest = some digest ∧
      c.Converged settings mode requested last.hub.overlay := by
  obtain ⟨c, m, hc, hm, rfl, ht⟩ := h
  refine ⟨c, hc, by rw [Controller.digest, hm, Option.map_some], ht.converged fun m' hm' kind => ?_⟩
  rw [hm, Option.some.injEq] at hm'
  subst hm'
  exact Node.follows_since hr served advances quiet hc hm (ht.started m hm).2 (asked kind.lane)

end StartedIn

/-- What a stop and a full start bring about, whatever has gone wrong before, if no call fails that is
made from then on. Reconcile tasks, the overlay and all other objects may do what they like meanwhile. -/
structure Recovers (node : Node) (i : Nat) (settings : Settings) (digest : ForkDigest)
    (requested : SubnetId → Prop) : Prop where
  /-- After a stop nothing is live. -/
  stopped : ∀ rest : List Event, (∀ act, .act i act ∉ rest) →
    (node.run (.act i .stop :: rest)).QuietSince node i (settings.namer digest) →
    ∃ c, (node.run (.act i .stop :: rest)).objects[i]? = some (.controller c) ∧
      c.digest = some digest ∧
      c.Converged settings .stopped requested (node.run (.act i .stop :: rest)).hub.overlay
  /-- After a full start every class and every requested subnet is live. -/
  started : ∀ (root : Root) (rest : List Event), (∀ act, .act i act ∉ rest) →
    (node.run (.act i (.start root false) :: rest)).QuietSince node i (settings.namer digest) →
    ∀ kind e, Mode.full.Calls requested (settings.namer digest) e kind →
      (node.run (.act i (.start root false) :: rest)).hub.overlay.endpoint?
        ((settings.namer digest).topic kind) = some e
  /-- After both there is nothing live besides. -/
  restarted : ∀ (root : Root) (between rest : List Event), (∀ act, .act i act ∉ between) →
    (∀ act, .act i act ∉ rest) →
    (node.run (.act i .stop :: between ++ .act i (.start root false) :: rest)).QuietSince node i
      (settings.namer digest) →
    ∃ c, (node.run (.act i .stop :: between ++ .act i (.start root false) :: rest)).objects[i]? =
        some (.controller c) ∧ c.digest = some digest ∧
      c.Converged settings .full requested
        (node.run (.act i .stop :: between ++ .act i (.start root false) :: rest)).hub.overlay

theorem StartedIn.recovery {settings : Settings} {digest : ForkDigest} {mode : Mode}
    {requested : SubnetId → Prop} (h : StartedIn node i settings digest mode requested)
    (hr : node.Rooted) : Recovers node i settings digest requested := by
  have stop := Node.serves_after node (e := .act i .stop) rfl
  refine ⟨?_, ?_, ?_⟩
  · intro rest unasked quiet
    exact (h.stop.rest unasked).converged hr stop (Node.advances_run _ rest) quiet h.asked_stop
  · intro root rest unasked quiet kind e hcalls
    have start := Node.serves_after node (e := .act i (.start root false)) rfl
    have due : ∀ id, kind = .subnet id → requested id := by
      rintro id rfl
      exact hcalls.2.1
    obtain ⟨c, m, hc, hm, rfl, ht⟩ := (h.start root).rest unasked
    have htracks := (ht.started m hm).2
    have follows := Node.follows_since hr start (Node.advances_run _ rest) quiet hc hm htracks
      (h.asked_start root due)
    exact (live_of_follows htracks follows e).2 hcalls
  · intro root between rest unasked unasked' quiet
    have hlast := (((h.stop.rest unasked).start root).rest unasked')
    have hrun : node.run (.act i .stop :: between ++ .act i (.start root false) :: rest) =
        (((node.after (.act i .stop)).run between).after (.act i (.start root false))).run rest :=
      (Node.run_run node (.act i .stop :: between) (.act i (.start root false) :: rest)).symm
    rw [← hrun] at hlast
    refine hlast.converged hr stop ?_ quiet h.asked_stop
    exact Node.advances_run (node.after (.act i .stop)) (between ++ .act i (.start root false) :: rest)

/-- A controller that has been started gets over any failures. -/
theorem recovers {base : Node} (reachable : base.Reachable) (fork : Fork) (settings : Settings)
    (es : List Event) {c : Controller} {digest : ForkDigest}
    (hc : (base.runController fork settings es).objects[base.objects.length]? =
      some (.controller c)) (started : c.digest = some digest) :
    Recovers (base.runController fork settings es) base.objects.length settings digest
      (Requested settings.subnetCount base.objects.length es) := by
  obtain ⟨c', hc', ht⟩ := (tracksIn_added base fork settings).run es
  have he := hc.symm.trans hc'
  rw [Option.some.injEq, GossipObject.controller.injEq] at he
  subst he
  obtain ⟨m, hm, hdigest⟩ := Option.map_eq_some_iff.1 started
  have hr := (reachable.rooted.after (.addController fork settings)).run_events es
  have h : StartedIn (base.runController fork settings es) base.objects.length settings digest _ _ :=
    ⟨c, m, hc, hm, hdigest, ht⟩
  exact h.recovery hr

/-- A subnet that was given up while its topic could not be left, and another whose join is held and
then refused. -/
theorem recovers_from_refused_leave :
    let topic := "/eth2/00000000/beacon_attestation_3/ssz_snappy"
    let es : List Event := [.act 0 (.requestSubnet 3), .act 0 (.start .zero false), .runTasks,
      .setRule (.refuse .leave none "refused"), .act 0 (.releaseSubnet 3), .runTasks,
      .setRule (.hold .join none), .act 0 (.requestSubnet 5), .runTasks,
      .setRule (.accept .leave none), .setRule (.accept .join none)]
    let node := Node.genesis.runController .genesis .standard es
    let between : List Event := [.release (.refuse .join none "refused"), .runTasks]
    let rest : List Event := [.runTasks, .runTasks]
    let last := node.run (.act 0 .stop :: between ++ .act 0 (.start .zero false) :: rest)
    node.hub.overlay.endpoint? topic = some ⟨.attestation, topic, some ⟨3⟩⟩ ∧
      ∃ c, last.objects[0]? = some (.controller c) ∧ c.digest = some ⟨.fill 4 0⟩ ∧
        c.Converged .standard .full (Requested 64 0 es) last.hub.overlay := by
  intro topic es node between rest last
  let c := node.controllerAt 0
  have hc : node.objects[0]? = some (.controller c) := by decide +kernel
  have started : c.digest = some ⟨.fill 4 0⟩ := by decide +kernel
  have single : last.objects.length = 1 := by decide +kernel
  have finished : last.Finished 0 := by decide +kernel
  have accepted : ∀ s ∈ last.hub.overlay.calls, s ∈ last.changesSince node s.topic →
      s.reply = some .ok := by decide +kernel
  have live : node.hub.overlay.endpoint? topic = some ⟨.attestation, topic, some ⟨3⟩⟩ := by
    decide +kernel
  have recovered : Recovers node 0 .standard ⟨.fill 4 0⟩ (Requested 64 0 es) :=
    recovers Node.reachable_genesis .genesis .standard es hc started
  have quiet : last.QuietSince node 0 (Settings.standard.namer ⟨.fill 4 0⟩) :=
    Node.quietSince_of_single single finished accepted
  -- The rest is about any such nodes, so that nothing has to be run again.
  clear accepted finished single started hc
  clear_value c node
  have unasked : ∀ act, .act 0 act ∉ between := fun act hm => by simp [between] at hm
  have unasked' : ∀ act, .act 0 act ∉ rest := fun act hm => by simp [rest] at hm
  dsimp only [last] at quiet ⊢
  exact ⟨live, recovered.restarted .zero between rest unasked unasked' quiet⟩

end Controller

end BeaconGossip
