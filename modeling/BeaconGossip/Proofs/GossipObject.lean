import BeaconGossip.GossipObject
import BeaconGossip.Proofs.Controller.Operation
import BeaconGossip.Proofs.SubnetSet.Channels

namespace BeaconGossip

open Channel

namespace Channel

/-- As `Served`, from whatever new channel. -/
def Grown (c c' : Option Channel) : Prop := ∃ e limit, Served (.fresh e limit) c c'

theorem Grown.refl (c : Option Channel) : Grown c c :=
  ⟨⟨.block, "", none⟩, 0, Served.refl _ c⟩

theorem Grown.trans {c c' c'' : Option Channel} (h : Grown c c') (h' : Grown c' c'') :
    Grown c c'' := by
  obtain ⟨e, limit, hs⟩ := h
  obtain ⟨e', limit', hs'⟩ := h'
  cases hs with
  | absent => exact ⟨e', limit', hs'⟩
  | opened requests =>
    cases hs' with
    | kept _ requests' => exact ⟨e, limit, (Served.opened requests).trans (.kept _ requests')⟩
  | kept c requests =>
    cases hs' with
    | kept _ requests' => exact ⟨e, limit, (Served.kept c requests).trans (.kept _ requests')⟩

theorem Grown.of_request (c : Channel) (wanted : Bool) : Grown (some c) (some (c.request wanted)) :=
  ⟨c.endpoint, c.limit, .kept c [wanted]⟩

end Channel

namespace SubnetSet

theorem lookup_lanes (s : SubnetSet) (id : SubnetId) : s.lanes.lookup (.subnet id) = s.channel? id := by
  rw [lanes, channel?]
  induction s.channels with
  | nil => rfl
  | cons entry rest ih =>
    obtain ⟨x, c⟩ := entry
    by_cases hx : id = x
    · subst hx
      simp
    · have hl : (Lane.subnet id == Lane.subnet x) = false := by simpa using hx
      have hb : (id == x) = false := by simpa using hx
      simp only [List.map_cons, List.lookup_cons, hl, hb, ih]

theorem lookup_lanes_none (s : SubnetSet) {lane : Lane} (h : ∀ id, lane ≠ .subnet id) :
    s.lanes.lookup lane = none := by
  rw [List.lookup_eq_none_iff]
  intro entry he
  obtain ⟨⟨x, c⟩, _, rfl⟩ := List.mem_map.1 he
  simpa using h x

end SubnetSet

namespace Managers

theorem lookup_topics (topics : List TopicManager) (c : MessageClass) :
    (topics.map fun t => (Lane.ofClass t.cls, t.channel)).lookup (.ofClass c) =
      (topics.find? (·.cls = c)).map (·.channel) := by
  induction topics with
  | nil => rfl
  | cons t rest ih =>
    by_cases hc : t.cls = c
    · subst hc
      simp
    · have hl : (Lane.ofClass c == Lane.ofClass t.cls) = false := by simpa using Ne.symm hc
      simp only [List.map_cons, List.lookup_cons, hl, ih, List.find?_cons, hc, decide_false]

theorem lookup_topics_none (topics : List TopicManager) {lane : Lane}
    (h : ∀ c, lane ≠ .ofClass c) :
    (topics.map fun t => (Lane.ofClass t.cls, t.channel)).lookup lane = none := by
  rw [List.lookup_eq_none_iff]
  intro entry he
  obtain ⟨t, _, rfl⟩ := List.mem_map.1 he
  simpa using h t.cls

theorem lookup_ofClass (m : Managers) (c : MessageClass) :
    m.lanes.lookup (.ofClass c) = (m.topic? c).map (·.channel) := by
  rw [lanes, List.lookup_append, SubnetSet.lookup_lanes_none _ (by simp), Option.none_or,
    lookup_topics, topic?]

theorem lookup_subnet (m : Managers) (id : SubnetId) :
    m.lanes.lookup (.subnet id) = m.attestation.channel? id := by
  rw [lanes, List.lookup_append, SubnetSet.lookup_lanes, lookup_topics_none _ (by simp),
    Option.or_none]

theorem lookup_sole (m : Managers) : m.lanes.lookup .sole = none := by
  rw [lanes, List.lookup_append, SubnetSet.lookup_lanes_none _ (by simp),
    lookup_topics_none _ (by simp), Option.or_none]

theorem topic?_map {topics : List TopicManager} {g : TopicManager → TopicManager}
    (h : ∀ t, (g t).cls = t.cls) (c : MessageClass) :
    (topics.map g).find? (·.cls = c) = (topics.find? (·.cls = c)).map g := by
  rw [List.find?_map]
  congr 2
  funext t
  simp only [Function.comp_apply, h]

theorem topic?_cls {m : Managers} {c : MessageClass} {t : TopicManager} (h : m.topic? c = some t) :
    t.cls = c := by
  simpa using List.find?_some h

theorem lookup_onLane {m : Managers} {lane : Lane} {c c' : Channel}
    (hc : m.lanes.lookup lane = some c) (he : c'.endpoint = c.endpoint) (l : Lane) :
    (m.onLane lane fun _ => c').lanes.lookup l =
      if l = lane then some c' else m.lanes.lookup l := by
  cases lane with
  | sole =>
    rw [lookup_sole] at hc
    cases hc
  | subnet id =>
    rw [lookup_subnet] at hc
    cases l with
    | sole => rw [lookup_sole, lookup_sole, if_neg (by simp)]
    | ofClass k =>
      rw [lookup_ofClass, lookup_ofClass, if_neg (by simp)]
      rfl
    | subnet x =>
      rw [lookup_subnet, lookup_subnet, onLane, SubnetSet.channel?_onChannel]
      by_cases hx : x = id
      · subst hx
        rw [if_pos rfl, if_pos rfl, hc, Option.map_some]
      · rw [if_neg hx, if_neg (by simpa using hx)]
  | ofClass k =>
    rw [lookup_ofClass] at hc
    cases ht : m.topic? k with
    | none =>
      rw [ht] at hc
      cases hc
    | some t =>
      rw [ht, Option.map_some, Option.some.injEq] at hc
      have hk : c'.cls = k := by
        rw [cls, he, ← hc]
        exact topic?_cls ht
      cases l with
      | sole => rw [lookup_sole, lookup_sole, if_neg (by simp)]
      | subnet x =>
        rw [lookup_subnet, lookup_subnet, if_neg (by simp)]
        rfl
      | ofClass k' =>
        rw [lookup_ofClass, lookup_ofClass, topic?, onLane, topic?_map]
        · by_cases hkk : k' = k
          · subst hkk
            rw [topic?] at ht
            simp [ht, topic?_cls ht]
          · rw [if_neg (by simpa using hkk), ← topic?]
            cases ht' : m.topic? k' with
            | none => rfl
            | some t' =>
              have hne : ¬ t'.cls = k := by rwa [topic?_cls ht']
              simp [hne]
        · intro t'
          split
          case isTrue ht' => exact hk.trans ht'.symm
          case isFalse => rfl

structure Serves (m m' : Managers) : Prop where
  ordered : m.attestation.Ordered → m'.attestation.Ordered
  grown : m.attestation.Ordered → ∀ lane, Grown (m.lanes.lookup lane) (m'.lanes.lookup lane)

theorem Serves.trans {m m' m'' : Managers} (h : m.Serves m') (h' : m'.Serves m'') : m.Serves m'' :=
  ⟨fun ho => h'.ordered (h.ordered ho),
    fun ho lane => (h.grown ho lane).trans (h'.grown (h.ordered ho) lane)⟩

theorem Serves.of_attestation {m : Managers} {s : SubnetSet} (h : m.attestation.Serves s) :
    m.Serves { m with attestation := s } := by
  refine ⟨h.ordered, ?_⟩
  intro ho lane
  cases lane with
  | sole =>
    rw [lookup_sole, lookup_sole]
    exact .refl none
  | ofClass c =>
    rw [lookup_ofClass, lookup_ofClass]
    exact .refl _
  | subnet id =>
    rw [lookup_subnet, lookup_subnet]
    exact ⟨_, _, h.served ho id⟩

theorem Serves.of_topics (m : Managers) (concerned : TopicManager → Bool) (wanted : Bool) :
    m.Serves { m with
      topics := m.topics.map fun t => if concerned t then ⟨t.channel.request wanted⟩ else t } := by
  refine ⟨id, ?_⟩
  intro _ lane
  cases lane with
  | sole =>
    rw [lookup_sole, lookup_sole]
    exact .refl none
  | ofClass c =>
    rw [lookup_ofClass, lookup_ofClass, topic?, topic?, topic?_map]
    · cases m.topics.find? (·.cls = c) with
      | none => exact .refl none
      | some t =>
        simp only [Option.map_some]
        split
        · exact .of_request ..
        · exact .refl _
    · intro t
      split <;> rfl
  | subnet id =>
    rw [lookup_subnet, lookup_subnet]
    exact .refl _

theorem serves_subscribe (m : Managers) (optimistic : Bool) : m.Serves (m.subscribe optimistic) := by
  have hs : m.attestation.Serves
      (if mayRun optimistic .attestation then m.attestation.subscribe else m.attestation) := by
    split
    · exact SubnetSet.serves_subscribe _
    · exact .refl _
  exact (Serves.of_attestation hs).trans (.of_topics _ (fun t => mayRun optimistic t.cls) true)

theorem serves_unsubscribe (m : Managers) (all : Bool) : m.Serves (m.unsubscribe all) := by
  have hs : m.attestation.Serves
      (if all || !mayRun true .attestation then m.attestation.unsubscribe else m.attestation) := by
    split
    · exact SubnetSet.serves_unsubscribe _
    · exact .refl _
  exact (Serves.of_attestation hs).trans
    (.of_topics _ (fun t => all || !mayRun true t.cls) false)

end Managers

namespace GossipObject

def controller? : GossipObject → Option Controller
  | controller c => some c
  | _ => none

/-- The subnets of an object ascend. -/
def Ordered : GossipObject → Prop
  | controller c => ∀ m, c.managers = some m → m.attestation.Ordered
  | subnets s => s.Ordered
  | _ => True

/-- What an operation on an object may do to its channels. -/
structure Serves (o o' : GossipObject) : Prop where
  ordered : o.Ordered → o'.Ordered
  grown : o.Ordered → ∀ lane, Grown (o.channel? lane) (o'.channel? lane)

theorem Serves.refl (o : GossipObject) : o.Serves o := ⟨id, fun _ lane => .refl (o.channel? lane)⟩

theorem Serves.trans {o o' o'' : GossipObject} (h : o.Serves o') (h' : o'.Serves o'') :
    o.Serves o'' :=
  ⟨fun ho => h'.ordered (h.ordered ho),
    fun ho lane => (h.grown ho lane).trans (h'.grown (h.ordered ho) lane)⟩

theorem channel?_stopped {c : Controller} (h : c.managers = none) (lane : Lane) :
    (controller c).channel? lane = none := by
  rw [channel?, lanes, h]
  rfl

theorem channel?_started {c : Controller} {m : Managers} (h : c.managers = some m) (lane : Lane) :
    (controller c).channel? lane = m.lanes.lookup lane := by
  rw [channel?, lanes, h]
  rfl

theorem serves_managers {c c' : Controller} {m m' : Managers} (hm : c.managers = some m)
    (hm' : c'.managers = some m') (h : m.Serves m') : (controller c).Serves (controller c') := by
  refine ⟨?_, ?_⟩
  · intro ho n hn
    rw [hm', Option.some.injEq] at hn
    subst hn
    exact h.ordered (ho m hm)
  · intro ho lane
    rw [channel?_started hm, channel?_started hm']
    exact h.grown (ho m hm) lane

theorem serves_same {c c' : Controller} (h : c'.managers = c.managers) :
    (controller c).Serves (controller c') := by
  refine ⟨fun ho m hm => ho m (h ▸ hm), ?_⟩
  intro _ lane
  rw [channel?, channel?, lanes, lanes, h]
  exact .refl _

theorem serves_fresh {c c' : Controller} {settings : Settings} {info : ForkInfo}
    {digest : ForkDigest} (hm : c.managers = none)
    (hm' : c'.managers = some (.fresh settings info digest)) :
    (controller c).Serves (controller c') := by
  refine ⟨?_, ?_⟩
  · intro _ n hn
    rw [hm', Option.some.injEq] at hn
    subst hn
    exact List.Pairwise.nil
  · intro _ lane
    rw [channel?_stopped hm, channel?_started hm']
    cases lane with
    | sole =>
      rw [Managers.lookup_sole]
      exact .refl none
    | subnet id =>
      rw [Managers.lookup_subnet]
      exact .refl none
    | ofClass cls =>
      rw [Managers.lookup_ofClass, Managers.topic?, Managers.fresh, List.find?_map]
      cases List.find? _ (MessageClass.all.filter (· ≠ .attestation)) with
      | none => exact .refl none
      | some cls' => exact ⟨_, _, .opened []⟩

theorem serves_handOver (c : Controller) (r : Registry) :
    (controller c).Serves (controller (c.handOver r).1) := by
  unfold Controller.handOver
  cases hm : c.managers with
  | none => exact .refl _
  | some m =>
    exact serves_managers hm rfl (Managers.Serves.of_attestation (m.attestation.serves_requests c.waiting r))

theorem serves_map {c c' : Controller} {g : Managers → Managers}
    (h : c'.managers = c.managers.map g) (hg : ∀ m, Managers.Serves m (g m)) :
    (controller c).Serves (controller c') := by
  cases hm : c.managers with
  | none =>
    rw [hm] at h
    exact serves_same (h.trans hm.symm)
  | some m =>
    rw [hm] at h
    exact serves_managers hm h (hg m)

theorem serves_build {c c' : Controller} {root : Root} {schedule schedule' : Schedule}
    {r r' : Registry} (h : c.build root schedule r = .ok (c', schedule', r')) :
    (controller c).Serves (controller c') := by
  obtain ⟨-, rfl, -⟩ | ⟨hm, digest, -, rfl, -⟩ := Controller.build_ok h
  · exact .refl _
  · exact serves_fresh hm rfl

theorem serves_start {c c' : Controller} {root : Root} {optimistic : Bool}
    {schedule schedule' : Schedule} {r r' : Registry}
    (h : c.start root optimistic schedule r = .ok (c', schedule', r')) :
    (controller c).Serves (controller c') := by
  obtain ⟨c₁, r₁, built, rfl, -⟩ := Controller.start_build h
  exact (serves_build built).trans ((serves_handOver c₁ r₁).trans
    (serves_map rfl fun m => m.serves_subscribe optimistic))

theorem serves_requestSubnet {c c' : Controller} {index : UInt64} {r r' : Registry}
    (h : c.requestSubnet index r = .ok (c', r')) : (controller c).Serves (controller c') := by
  obtain ⟨_, ⟨_, rfl⟩ | ⟨m, hm, rfl⟩⟩ := Controller.requestSubnet_ok h
  · exact serves_same rfl
  · exact serves_managers hm rfl (.of_attestation (SubnetSet.serves_request ..))

theorem serves_releaseSubnet {c c' : Controller} {index : UInt64} {r r' : Registry}
    (h : c.releaseSubnet index r = .ok (c', r')) : (controller c).Serves (controller c') := by
  obtain ⟨_, ⟨_, rfl⟩ | ⟨m, hm, rfl⟩⟩ := Controller.releaseSubnet_ok h
  · exact serves_same rfl
  · exact serves_managers hm rfl (.of_attestation (SubnetSet.serves_release ..))

theorem serves_publishAttestation (c : Controller) (a : GossipAttestation) (h : Hub) :
    (controller c).Serves (controller (c.publishAttestation a h).2.1) := by
  rw [Controller.publishAttestation_controller]
  exact serves_map rfl fun m => .of_attestation (m.attestation.serves_offer a h)

theorem serves_subnets {s s' : SubnetSet} (h : s.Serves s') : (subnets s).Serves (subnets s') := by
  refine ⟨h.ordered, ?_⟩
  intro ho lane
  cases lane with
  | subnet id =>
    rw [channel?, channel?, lanes, lanes, SubnetSet.lookup_lanes, SubnetSet.lookup_lanes]
    exact ⟨_, _, h.served ho id⟩
  | _ =>
    rw [channel?, channel?, lanes, lanes, SubnetSet.lookup_lanes_none _ (by simp),
      SubnetSet.lookup_lanes_none _ (by simp)]
    exact .refl none

theorem channel?_sole {o : GossipObject} {c : Channel} (h : o.lanes = [(.sole, c)]) (lane : Lane) :
    o.channel? lane = if lane = .sole then some c else none := by
  rw [channel?, h]
  cases lane <;> simp

theorem serves_sole {o o' : GossipObject} {c : Channel} {wanted : Bool} (ordered : o'.Ordered)
    (h : o.lanes = [(.sole, c)]) (h' : o'.lanes = [(.sole, c.request wanted)]) : o.Serves o' := by
  refine ⟨fun _ => ordered, ?_⟩
  intro _ lane
  rw [channel?_sole h, channel?_sole h']
  split
  · exact .of_request c wanted
  · exact .refl none

theorem serves_manager (m : TopicManager) (wanted : Bool) :
    (manager m).Serves (manager ⟨m.channel.request wanted⟩) :=
  serves_sole (c := m.channel) trivial rfl rfl

theorem serves_channel (c : Channel) (wanted : Bool) :
    (channel c).Serves (channel (c.request wanted)) := serves_sole trivial rfl rfl

theorem channel?_onLane {o : GossipObject} {lane : Lane} {c c' : Channel}
    (hc : o.channel? lane = some c) (he : c'.endpoint = c.endpoint) (l : Lane) :
    (o.onLane lane fun _ => c').channel? l = if l = lane then some c' else o.channel? l := by
  cases o with
  | controller ctl =>
    cases hm : ctl.managers with
    | none =>
      rw [channel?_stopped hm] at hc
      cases hc
    | some m =>
      rw [channel?_started hm] at hc
      have hm' : ({ ctl with managers := ctl.managers.map (·.onLane lane fun _ => c') }
          : Controller).managers = some (m.onLane lane fun _ => c') := by
        rw [hm]
        rfl
      rw [onLane, channel?_started hm', channel?_started hm, Managers.lookup_onLane hc he]
  | manager m =>
    rw [channel?_sole rfl] at hc
    split at hc
    case isTrue hl =>
      subst hl
      rw [onLane, channel?_sole rfl, channel?_sole rfl]
      split <;> rfl
    case isFalse => cases hc
  | subnets s =>
    cases lane with
    | subnet id =>
      rw [channel?, lanes, SubnetSet.lookup_lanes] at hc
      rw [onLane, channel?, channel?, lanes, lanes]
      cases l with
      | subnet x =>
        rw [SubnetSet.lookup_lanes, SubnetSet.lookup_lanes, SubnetSet.channel?_onChannel]
        by_cases hx : x = id
        · subst hx
          rw [if_pos rfl, if_pos rfl, hc, Option.map_some]
        · rw [if_neg hx, if_neg (by simpa using hx)]
      | _ =>
        rw [SubnetSet.lookup_lanes_none _ (by simp), SubnetSet.lookup_lanes_none _ (by simp),
          if_neg (by simp)]
    | _ =>
      rw [channel?, lanes, SubnetSet.lookup_lanes_none _ (by simp)] at hc
      cases hc
  | channel d =>
    rw [channel?_sole rfl] at hc
    split at hc
    case isTrue hl =>
      subst hl
      rw [onLane, channel?_sole rfl, channel?_sole rfl]
      split <;> rfl
    case isFalse => cases hc

theorem Ordered.onLane {o : GossipObject} (h : o.Ordered) (lane : Lane) (f : Channel → Channel) :
    (o.onLane lane f).Ordered := by
  cases o with
  | controller c =>
    intro m hm
    rw [Option.map_eq_some_iff] at hm
    obtain ⟨m', hm', rfl⟩ := hm
    cases lane with
    | subnet id => exact (h m' hm').onChannel id f
    | _ => exact h m' hm'
  | subnets s =>
    cases lane with
    | subnet id => exact SubnetSet.Ordered.onChannel h id f
    | _ => exact h
  | manager m => cases lane <;> trivial
  | channel c => cases lane <;> trivial

end GossipObject

end BeaconGossip
