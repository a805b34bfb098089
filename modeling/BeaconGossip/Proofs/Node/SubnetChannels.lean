import BeaconGossip.Proofs.Controller.Convergence
import BeaconGossip.Proofs.Node.Gauge
import BeaconGossip.Proofs.Node.Later
import BeaconGossip.Proofs.Node.Perform

namespace BeaconGossip

namespace Channel

/-- What becomes of a channel: it is requested things, and its tasks have turns. -/
inductive Becomes (c : Channel) : Channel → Prop where
  | refl : Becomes c c
  | request {c' : Channel} (h : Becomes c c') (wanted : Bool) : Becomes c (c'.request wanted)
  | turn {c' : Channel} (h : Becomes c c') (hub : Hub) : Becomes c (c'.poll hub).1

namespace Becomes

variable {c c' c'' : Channel}

theorem trans (h : c.Becomes c') (h' : c'.Becomes c'') : c.Becomes c'' := by
  induction h' with
  | refl => exact h
  | request _ wanted ih => exact .request ih wanted
  | turn _ hub ih => exact .turn ih hub

theorem endpoint (h : c.Becomes c') : c'.endpoint = c.endpoint := by
  induction h with
  | refl => rfl
  | request _ _ ih => exact ih
  | @turn c' _ hub ih => exact (poll_endpoint c' hub).trans ih

theorem requestAll (c : Channel) (requests : List Bool) : c.Becomes (c.requestAll requests) := by
  induction requests generalizing c with
  | nil => exact .refl
  | cons wanted rest ih => exact (Becomes.refl.request wanted).trans (ih (c.request wanted))

end Becomes

end Channel

namespace Node

variable {node node' : Node} {a : Address} {c : Channel}

theorem Advance.becomes (h : Advance node node') (ho : node.Ordered)
    (hc : node.channel? a = some c) : ∃ c', node'.channel? a = some c' ∧ c.Becomes c' := by
  cases h with
  | served _ grown _ =>
    obtain ⟨e, limit, hg⟩ := grown ho a
    rw [hc] at hg
    generalize node'.channel? a = after at hg
    cases hg with
    | kept _ requests => exact ⟨_, rfl, .requestAll c requests⟩
  | turn b =>
    cases hd : node.channel? b with
    | none =>
      rw [poll_none hd]
      exact ⟨c, hc, .refl⟩
    | some d =>
      rw [channel?_poll hd]
      by_cases hab : a = b
      · subst hab
        rw [hd, Option.some.injEq] at hc
        subst hc
        exact ⟨_, if_pos rfl, .turn .refl node.hub⟩
      · exact ⟨c, (if_neg hab).trans hc, .refl⟩

/-- No channel goes away, and none is replaced by another. -/
theorem Advances.becomes (h : Advances node node') (ho : node.Ordered)
    (hc : node.channel? a = some c) : ∃ c', node'.channel? a = some c' ∧ c.Becomes c' := by
  induction h with
  | refl => exact ⟨c, hc, .refl⟩
  | tail advances advance ih =>
    obtain ⟨c', hc', h⟩ := ih
    obtain ⟨c'', hc'', h'⟩ := advance.becomes (Advances.ordered advances ho) hc'
    exact ⟨c'', hc'', h.trans h'⟩

end Node

namespace GossipObject

variable {o : GossipObject} {s : SubnetSet} {id : SubnetId} {c : Channel}

theorem channel?_subnet (hs : o.subnetSet? = some s) (id : SubnetId) :
    o.channel? (.subnet id) = s.channel? id := by
  cases o with
  | controller d =>
    obtain ⟨m, hm, rfl⟩ := Option.map_eq_some_iff.1 hs
    rw [channel?_started hm, Managers.lookup_subnet]
  | subnets s' =>
    cases hs
    exact s.lookup_lanes id
  | _ => cases hs

theorem subnetSet?_of_channel? (hc : o.channel? (.subnet id) = some c) :
    ∃ s, o.subnetSet? = some s ∧ s.channel? id = some c := by
  cases o with
  | controller d =>
    cases hm : d.managers with
    | none =>
      rw [channel?, lanes, hm] at hc
      cases hc
    | some m =>
      have hs : (controller d).subnetSet? = some m.attestation := by
        rw [subnetSet?, Controller.subnetSet?, hm, Option.map_some]
      exact ⟨m.attestation, hs, (channel?_subnet hs id).symm.trans hc⟩
  | subnets s => exact ⟨s, rfl, (channel?_subnet rfl id).symm.trans hc⟩
  | _ => cases hc

theorem Kept.subnets (h : o.Kept) (hs : o.subnetSet? = some s) : s.Kept := by
  cases o with
  | controller d =>
    obtain ⟨m, hm, rfl⟩ := Option.map_eq_some_iff.1 hs
    obtain ⟨mode, requested, tracks⟩ := h
    exact (tracks.started m hm).2.kept
  | subnets s' =>
    cases hs
    exact h
  | _ => cases hs

/-- Of the channels of an object, only the subnet's own has the topic of the subnet. -/
theorem Kept.lane_of_topic (h : o.Kept) (hs : o.subnetSet? = some s) {lane : Lane}
    (hc : o.channel? lane = some c) (ht : c.topic = s.namer.topic (.subnet id)) :
    lane = .subnet id := by
  cases o with
  | controller d =>
    obtain ⟨m, hm, rfl⟩ := Option.map_eq_some_iff.1 hs
    obtain ⟨mode, requested, tracks⟩ := h
    have tracks := (tracks.started m hm).2
    rw [channel?_started hm] at hc
    obtain ⟨kind, rfl, ht'⟩ := tracks.lane_topic hc
    rw [tracks.namer] at ht
    rw [TopicNamer.topic_inj (ht'.symm.trans ht)]
    rfl
  | subnets s' =>
    cases hs
    cases lane with
    | subnet x =>
      rw [channel?_subnet rfl] at hc
      have endpoint := (SubnetSet.Kept.endpoint h x c hc).1
      have ht' : c.topic = s.namer.topic (.subnet x) := congrArg Endpoint.topic endpoint
      rw [TopicKind.subnet.inj (TopicNamer.topic_inj (ht'.symm.trans ht))]
    | _ =>
      rw [channel?, lanes, s.lookup_lanes_none fun _ => Lane.noConfusion] at hc
      cases hc
  | _ => cases hs

end GossipObject

namespace SubnetSet

/-- What publishing may do to a set: it opens channels, of which nobody has asked anything. -/
structure Opens (s s' : SubnetSet) : Prop where
  enabled : s'.enabled = s.enabled
  requested : s'.requested = s.requested
  subscribed : s'.subscribed = s.subscribed
  channel? : ∀ id, s'.channel? id = s.channel? id ∨
    s.channel? id = none ∧ s'.channel? id = some (s.newChannel id)

variable {s s' : SubnetSet}

theorem Opens.refl (s : SubnetSet) : s.Opens s := ⟨rfl, rfl, rfl, fun _ => .inl rfl⟩

theorem filter_upsert {id : SubnetId} {start : Channel} (h : start.confirmed = false)
    (channels : List (SubnetId × Channel)) :
    (upsert id start (fun c => c) channels).filter (·.2.confirmed) =
      channels.filter (·.2.confirmed) := by
  fun_induction upsert id start (fun c => c) channels with
  | case1 => rw [List.filter_cons_of_neg (by simp [h])]
  | case2 x c rest hlt => rw [List.filter_cons_of_neg (by simp [h])]
  | case3 c rest hlt => rfl
  | case4 x c rest hlt hne ih => simp only [List.filter_cons, ih]

theorem opens_gossip (ordered : s.Ordered) (a : GossipAttestation) (h : Hub) :
    s.Opens (s.gossip a h).2.1 := by
  refine ⟨rfl, rfl, congrArg (List.map Prod.fst) (filter_upsert rfl _), fun id => ?_⟩
  rw [gossip, ordered.channel?_withChannel]
  by_cases hid : id = a.subnet s.count
  · subst hid
    rw [if_pos rfl]
    cases s.channel? (a.subnet s.count) with
    | none => exact .inr ⟨rfl, rfl⟩
    | some c => exact .inl rfl
  · exact .inl (if_neg hid)

theorem opens_offer (ordered : s.Ordered) (a : GossipAttestation) (h : Hub) :
    s.Opens (s.offer a h).2.1 := by
  unfold offer
  dsimp only
  split
  · split
    · exact opens_gossip ordered _ _
    · exact .refl s
  · exact .refl s

theorem Ordered.isActive_iff (ordered : s.Ordered) :
    s.isActive = true ↔ s.enabled = true ∧ ∀ id ∈ s.requested, id ∈ s.subscribed := by
  rw [isActive, Bool.and_eq_true, List.all_eq_true]
  refine and_congr_right' (forall₂_congr fun id _ => ?_)
  rw [ordered.mem_subscribed, isConfirmed, Option.any_eq_true]

end SubnetSet

/-- The act offers something for publication. -/
def Node.Act.publishes : Node.Act → Bool
  | .publish _ | .publishPayload _ | .publishAttestation _ | .gossip _ => true
  | _ => false

open Node (Act)

namespace GossipObject

variable {o : GossipObject} {s : SubnetSet} {act : Act}

/-- What publishing may do to an object with subnets. -/
structure Opens (o : GossipObject) (s : SubnetSet) (o' : GossipObject) : Prop where
  subnets : ∃ s', o'.subnetSet? = some s' ∧ s.Opens s'
  others : ∀ lane, (∀ id, lane ≠ .subnet id) → o'.channel? lane = o.channel? lane

theorem Opens.refl (hs : o.subnetSet? = some s) : o.Opens s o :=
  ⟨⟨s, hs, .refl s⟩, fun _ _ => rfl⟩

theorem opens_subnets {s s' : SubnetSet} (h : s.Opens s') :
    (subnets s).Opens s (subnets s') := by
  refine ⟨⟨s', rfl, h⟩, fun lane other => ?_⟩
  exact (s'.lookup_lanes_none other).trans (s.lookup_lanes_none other).symm

theorem opens_controller {c : Controller} {m : Managers} (hm : c.managers = some m)
    {s' : SubnetSet} (h : m.attestation.Opens s') :
    (controller c).Opens m.attestation
      (controller { c with managers := some { m with attestation := s' } }) := by
  refine ⟨⟨s', rfl, h⟩, fun lane other => ?_⟩
  rw [channel?_started hm, channel?_started (m := { m with attestation := s' }) rfl]
  cases lane with
  | sole => rw [Managers.lookup_sole, Managers.lookup_sole]
  | ofClass cls => rw [Managers.lookup_ofClass, Managers.lookup_ofClass]; rfl
  | subnet id => exact (other id rfl).elim

theorem opens_performed (h : o.Kept) (hs : o.subnetSet? = some s) (hp : act.publishes = true)
    (node : Node) : o.Opens s (o.performed node act) := by
  have ordered := (h.subnets hs).ordered
  cases o with
  | controller c =>
    obtain ⟨m, hm, rfl⟩ := Option.map_eq_some_iff.1 hs
    cases act with
    | publishAttestation a =>
      simp only [performed, Controller.performed]
      cases node.attestations[a]? with
      | none => exact .refl hs
      | some att =>
        dsimp only
        rw [Controller.publishAttestation_controller, hm]
        exact opens_controller hm (SubnetSet.opens_offer ordered att node.hub)
    | publish | publishPayload | gossip => exact .refl hs
    | _ => cases hp
  | subnets s' =>
    cases hs
    cases act with
    | publishAttestation a =>
      simp only [performed, SubnetSet.performed]
      cases node.attestations[a]? with
      | none => exact .refl rfl
      | some att => exact opens_subnets (SubnetSet.opens_offer ordered att node.hub)
    | gossip a =>
      simp only [performed, SubnetSet.performed]
      cases node.attestations[a]? with
      | none => exact .refl rfl
      | some att => exact opens_subnets (SubnetSet.opens_gossip ordered att node.hub)
    | publish | publishPayload => exact .refl rfl
    | _ => cases hp
  | _ => cases hs

theorem performed_of_none (hs : o.subnetSet? = none) (hp : act.publishes = true) (node : Node) :
    o.performed node act = o := by
  cases o with
  | controller c =>
    have hm : c.managers = none := Option.map_eq_none_iff.1 hs
    cases act with
    | publishAttestation a =>
      simp only [performed, Controller.performed]
      cases node.attestations[a]? with
      | none => rfl
      | some att =>
        dsimp only
        rw [Controller.publishAttestation_controller, hm, Option.map_none, ← hm]
    | publish | publishPayload | gossip => rfl
    | _ => cases hp
  | subnets s => cases hs
  | manager m => cases act <;> first | rfl | cases hp
  | channel c => cases act <;> first | rfl | cases hp

theorem channel?_performed (h : o.Kept) (hp : act.publishes = true) (node : Node) (lane : Lane) :
    (o.performed node act).channel? lane = o.channel? lane ∨ o.channel? lane = none ∧
      ∃ e limit, (o.performed node act).channel? lane = some (.fresh e limit) := by
  cases hs : o.subnetSet? with
  | none =>
    rw [performed_of_none hs hp]
    exact .inl rfl
  | some s =>
    obtain ⟨⟨s', hs', opens⟩, others⟩ := opens_performed h hs hp node
    by_cases hl : ∃ id, lane = .subnet id
    · obtain ⟨id, rfl⟩ := hl
      rw [channel?_subnet hs, channel?_subnet hs']
      rcases opens.channel? id with same | ⟨none, opened⟩
      · exact .inl same
      · exact .inr ⟨none, _, _, opened⟩
    · exact .inl (others lane fun id he => hl ⟨id, he⟩)

theorem spawned_performed (h : o.Kept) (hp : act.publishes = true) (node : Node) :
    o.spawned (o.performed node act) = [] := by
  rw [spawned, List.flatMap_eq_nil_iff]
  rintro ⟨lane, c⟩ hm
  have hc := (h.performed node act).channel?_of_mem hm
  have hle : c.unfinished ≤ o.unfinished lane := by
    rw [GossipObject.unfinished]
    rcases channel?_performed h hp node lane with same | ⟨-, e, limit, opened⟩
    · rw [same] at hc
      rw [hc]
      exact Nat.le_refl _
    · rw [hc, Option.some.injEq] at opened
      rw [opened]
      exact Nat.zero_le _
  dsimp only
  rw [Nat.sub_eq_zero_of_le hle, List.replicate_zero]

end GossipObject

theorem Overlay.changesIn_published (o : Overlay) (output : List (String × Bytes)) :
    changesIn (o.published output).calls = changesIn o.calls := by
  induction output generalizing o with
  | nil => rfl
  | cons entry rest ih =>
    rw [published, List.foldl_cons, ← published, ih, call_calls, changesIn_append, changesIn_cons,
      made_changes_of_publish o entry.1 rfl]
    exact List.append_nil _

namespace Node

/-- Nothing has been asked of any channel, and no topic has been joined or left. -/
structure Unasked (node node' : Node) : Prop where
  tasks : node'.tasks = node.tasks
  channels : ∀ a, node'.channel? a = node.channel? a ∨ node.channel? a = none ∧
    ∃ e limit, node'.channel? a = some (.fresh e limit)
  calls : Overlay.changesIn node'.hub.overlay.calls = Overlay.changesIn node.hub.overlay.calls

theorem unasked_perform {node : Node} (h : node.Kept) (i : Nat) {act : Act}
    (hp : act.publishes = true) : node.Unasked (node.perform i act).2 := by
  cases ho : node.objects[i]? with
  | none =>
    rw [perform_none ho]
    exact ⟨rfl, fun _ => .inl rfl, rfl⟩
  | some o =>
    have kept := h i o ho
    refine ⟨?_, fun a => ?_, ?_⟩
    · rw [tasks_perform kept ho, GossipObject.spawned_performed kept hp, List.map_nil,
        List.append_nil]
    · by_cases hi : a.object = i
      · subst hi
        rw [channel?, channel?, objects_performed ho, ho]
        exact GossipObject.channel?_performed kept hp node a.lane
      · left
        rw [channel?, channel?, (acted_perform node i act).objects_ne (Ne.symm hi)]
    · rw [perform_overlay ho, Overlay.changesIn_published]

/-- The flag of a subnet set, its requests and its channels fit together, and go on to do so. -/
structure SubnetsFit (node : Node) (i : Nat) (s : SubnetSet) : Prop where
  /-- A channel is wanted if and only if the set is on and the subnet requested. -/
  wants : ∀ id, s.Wants id ↔ s.enabled = true ∧ id ∈ s.requested
  endpoint : ∀ id c, s.channel? id = some c →
    c.endpoint = ⟨.attestation, s.namer.topic (.subnet id), some id⟩
  /-- Whatever happens, a channel stays the channel of its subnet. -/
  kept : ∀ es id c, s.channel? id = some c → ∃ o s' c', (node.run es).objects[i]? = some o ∧
    o.subnetSet? = some s' ∧ s'.channel? id = some c' ∧ c.Becomes c' ∧ c'.endpoint = c.endpoint
  /-- A topic that only this object uses is live for its channel. -/
  live : ∀ id e, (∀ a d, node.channel? a = some d → d.topic = s.namer.topic (.subnet id) →
      a.object = i) → node.hub.overlay.endpoint? (s.namer.topic (.subnet id)) = some e →
    ∃ c, s.channel? id = some c ∧ c.endpoint = e
  /-- To publish is no request, even if it opens a channel. -/
  publishing : ∀ act, act.publishes = true → node.Unasked (node.perform i act).2 ∧
    ∃ o' s', (node.perform i act).2.objects[i]? = some o' ∧ o'.subnetSet? = some s' ∧
      s.Opens s' ∧ s'.isActive = s.isActive
  active : s.isActive = true ↔ s.enabled = true ∧ ∀ id ∈ s.requested, id ∈ s.subscribed

section Fit

variable {node : Node} {i : Nat} {o : GossipObject} {s : SubnetSet}

theorem subnet_kept (ordered : node.Ordered) (ho : node.objects[i]? = some o)
    (hs : o.subnetSet? = some s) (es : List Event) {id : SubnetId} {c : Channel}
    (hc : s.channel? id = some c) :
    ∃ o s' c', (node.run es).objects[i]? = some o ∧ o.subnetSet? = some s' ∧
      s'.channel? id = some c' ∧ c.Becomes c' ∧ c'.endpoint = c.endpoint := by
  have found : node.channel? ⟨i, .subnet id⟩ = some c := by
    rw [channel?, ho, Option.bind_some, GossipObject.channel?_subnet hs, hc]
  obtain ⟨c', found', becomes⟩ := (advances_run node es).becomes ordered found
  obtain ⟨o', ho', hl⟩ := Option.bind_eq_some_iff.1 found'
  obtain ⟨s', hs', hc'⟩ := GossipObject.subnetSet?_of_channel? hl
  exact ⟨o', s', c', ho', hs', hc', becomes, becomes.endpoint⟩

theorem subnet_live (rooted : node.Rooted) (kept : node.Kept) (ho : node.objects[i]? = some o)
    (hs : o.subnetSet? = some s) {id : SubnetId} {e : Endpoint}
    (apart : ∀ a d, node.channel? a = some d → d.topic = s.namer.topic (.subnet id) → a.object = i)
    (live : node.hub.overlay.endpoint? (s.namer.topic (.subnet id)) = some e) :
    ∃ c, s.channel? id = some c ∧ c.endpoint = e := by
  have own (a : Address) (d : Channel) (hd : node.channel? a = some d)
      (ht : d.topic = s.namer.topic (.subnet id)) : a = ⟨i, .subnet id⟩ := by
    obtain ⟨j, lane⟩ := a
    obtain rfl : j = i := apart _ d hd ht
    rw [channel?, ho, Option.bind_some] at hd
    have hl : lane = .subnet id := (kept j o ho).lane_of_topic hs hd ht
    rw [hl]
  by_cases used : ∃ a d, node.channel? a = some d ∧ d.topic = s.namer.topic (.subnet id)
  · obtain ⟨a, d, hd, ht⟩ := used
    obtain rfl := own a d hd ht
    have sound := rooted.sound hd (fun b d' hb hbt => own b d' hb (hbt.trans ht))
    have joined := sound.live_eq
    rw [ht, live] at joined
    rw [channel?, ho, Option.bind_some, GossipObject.channel?_subnet hs] at hd
    refine ⟨d, hd, ?_⟩
    split at joined
    · exact (Option.some.inj joined).symm
    · cases joined
  · -- Nobody has ever joined a topic that no channel has.
    have unused : node.Unused (s.namer.topic (.subnet id)) := fun a d hd ht => used ⟨a, d, hd, ht⟩
    rw [(rooted.untouched _ unused).2] at live
    cases live

theorem subnet_publishing (kept : node.Kept) (ho : node.objects[i]? = some o)
    (hs : o.subnetSet? = some s) {act : Act} (hp : act.publishes = true) :
    ∃ o' s', (node.perform i act).2.objects[i]? = some o' ∧ o'.subnetSet? = some s' ∧ s.Opens s' ∧
      s'.isActive = s.isActive := by
  have hk := kept i o ho
  obtain ⟨⟨s', hs', opens⟩, -⟩ := GossipObject.opens_performed hk hs hp node
  refine ⟨_, s', objects_performed ho act, hs', opens, Bool.eq_iff_iff.2 ?_⟩
  rw [((hk.performed node act).subnets hs').ordered.isActive_iff,
    (hk.subnets hs).ordered.isActive_iff, opens.enabled, opens.requested, opens.subscribed]

/-- In every state that a node can come to, each of its subnet sets is in order. -/
theorem subnets_fit (reachable : node.Reachable) (ho : node.objects[i]? = some o)
    (hs : o.subnetSet? = some s) : node.SubnetsFit i s := by
  have kept := reachable.kept
  have set := (kept i o ho).subnets hs
  refine ⟨set.wants, fun id c hc => (set.endpoint id c hc).1, ?_, ?_, ?_, set.ordered.isActive_iff⟩
  · exact fun es id c hc => subnet_kept kept.ordered ho hs es hc
  · exact fun id e apart live => subnet_live reachable.rooted kept ho hs apart live
  · exact fun act hp => ⟨unasked_perform kept i hp, subnet_publishing kept ho hs hp⟩

/-- While the set is off, one subnet is requested and another published on; then the set is turned
on, and the join is held. -/
theorem subnets_fit_published :
    let data : AttestationData := ⟨5, 1, .fill 32 0, ⟨0, .fill 32 0⟩, ⟨0, .fill 32 0⟩⟩
    let es : List Event := [.addSubnets .standard ⟨.fill 4 0⟩,
      .addAttestation (.ofValidator ⟨[true], data, []⟩ 4), .act 0 (.requestSubnet 3),
      .act 0 (.gossip 0), .setRule (.hold .join none), .act 0 .subscribe, .runTasks]
    let node := (fresh .standard ⟨[], none, []⟩).run es
    ∃ s, node.objects[0]? = some (.subnets s) ∧
      (s.channels.map fun (id, c) => (id, c.wanted, c.confirmed)) =
        [(⟨3⟩, true, false), (⟨21⟩, false, false)] ∧
      node.SubnetsFit 0 s := by
  intro data es node
  let s := (node.objects[0]?.bind (·.subnetSet?)).getD (.fresh .standard ⟨.fill 4 0⟩)
  have found : node.objects[0]? = some (.subnets s) := by decide +kernel
  exact ⟨s, found, by decide +kernel, subnets_fit ⟨_, _, es, rfl⟩ found rfl⟩

end Fit

end Node

end BeaconGossip
