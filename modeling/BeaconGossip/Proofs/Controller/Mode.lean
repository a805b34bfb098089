import BeaconGossip.Proofs.GossipObject
import BeaconGossip.Proofs.SubnetSet.Requested

namespace BeaconGossip

open Channel

/-- The classes that have one topic per fork, in the order of their managers. -/
def MessageClass.single : List MessageClass := all.filter (· ≠ .attestation)

theorem MessageClass.mem_single {c : MessageClass} : c ∈ single ↔ c ≠ .attestation := by
  cases c <;> decide

namespace Controller

inductive Mode where
  | stopped
  | optimistic
  | full
  deriving DecidableEq

namespace Mode

def runs (mode : Mode) (c : MessageClass) : Bool :=
  match mode with
  | stopped => false
  | optimistic => c.runsOptimistically
  | full => true

/-- A start that succeeds. -/
def start (mode : Mode) (head : Bool) : Mode :=
  match head, mode with
  | false, _ => full
  | true, stopped => optimistic
  | true, mode => mode

def stopOptimistic : Mode → Mode
  | full => optimistic
  | mode => mode

theorem runs_start (mode : Mode) (head : Bool) (c : MessageClass) :
    (mode.start head).runs c = if Managers.mayRun head c then true else mode.runs c := by
  cases mode <;> cases head <;> cases c <;> rfl

theorem runs_stopOptimistic (mode : Mode) (c : MessageClass) :
    mode.stopOptimistic.runs c = if !Managers.mayRun true c then false else mode.runs c := by
  cases mode <;> cases c <;> rfl

theorem runs_attestation (mode : Mode) : mode.runs .attestation = decide (mode = .full) := by
  cases mode <;> rfl

end Mode

end Controller

open Controller (Mode)

/-- What a manager should be like, and is: its endpoint, its limit, and whether it is wanted. -/
def TopicManager.standing (t : TopicManager) : Endpoint × Nat × Bool :=
  (t.channel.endpoint, t.channel.limit, t.channel.wanted)

def Settings.standing (settings : Settings) (digest : ForkDigest) (mode : Mode)
    (c : MessageClass) : Endpoint × Nat × Bool :=
  (⟨c, (settings.namer digest).topic (.ofClass c), none⟩, settings.limit, mode.runs c)

namespace Managers

/-- The managers ask for what the mode allows, and for the requested subnets if attestations are
among it. -/
structure Tracks (m : Managers) (settings : Settings) (mode : Mode)
    (requested : SubnetId → Prop) : Prop where
  namer : m.attestation.namer = settings.namer m.digest
  count : m.attestation.count = settings.subnetCount
  limit : m.attestation.limit = settings.limit
  kept : m.attestation.Kept
  enabled : m.attestation.enabled = mode.runs .attestation
  requested_iff : ∀ id, id ∈ m.attestation.requested ↔ requested id
  topics : m.topics.map (·.standing) = MessageClass.single.map (settings.standing m.digest mode)

variable {m : Managers} {settings : Settings} {mode : Mode} {requested : SubnetId → Prop}

theorem Tracks.fresh (settings : Settings) (info : ForkInfo) (digest : ForkDigest) :
    (fresh settings info digest).Tracks settings .stopped fun _ => False := by
  refine ⟨rfl, rfl, rfl, .fresh settings digest, rfl, ?_, ?_⟩
  · intro id
    exact List.mem_nil_iff id
  · rw [Managers.fresh, List.map_map]
    rfl

/-- What has to be checked of an operation on the managers. -/
theorem Tracks.of_serves (h : m.Tracks settings mode requested) {m' : Managers} {mode' : Mode}
    {requested' : SubnetId → Prop} (digest : m'.digest = m.digest)
    (serves : m.attestation.Serves m'.attestation) (kept : m'.attestation.Kept)
    (enabled : m'.attestation.enabled = mode'.runs .attestation)
    (requested_iff : ∀ id, id ∈ m'.attestation.requested ↔ requested' id)
    (topics : m'.topics.map (·.standing) = MessageClass.single.map (settings.standing m.digest mode')) :
    m'.Tracks settings mode' requested' := by
  rw [← digest] at topics
  refine ⟨?_, serves.count.trans h.count, serves.limit.trans h.limit, kept, enabled,
    requested_iff, topics⟩
  rw [digest]
  exact serves.namer.trans h.namer

theorem Tracks.withAttestation (h : m.Tracks settings mode requested) {s : SubnetSet}
    (serves : m.attestation.Serves s) (kept : s.Kept)
    (enabled : s.enabled = m.attestation.enabled) {requested' : SubnetId → Prop}
    (requested_iff : ∀ id, id ∈ s.requested ↔ requested' id) :
    { m with attestation := s }.Tracks settings mode requested' :=
  h.of_serves rfl serves kept (enabled.trans h.enabled) requested_iff h.topics

theorem standing_map_request (topics : List TopicManager) (concerned : MessageClass → Bool)
    (wanted : Bool) :
    (topics.map fun t => if concerned t.cls then ⟨t.channel.request wanted⟩ else t).map
        (·.standing) =
      (topics.map (·.standing)).map fun (e, limit, w) =>
        (e, limit, if concerned e.cls then wanted else w) := by
  rw [List.map_map, List.map_map]
  apply List.map_congr_left
  intro t _
  simp only [Function.comp_apply, TopicManager.standing, TopicManager.cls, Channel.cls]
  by_cases hc : concerned t.channel.endpoint.cls = true <;> simp [hc, Channel.request]

/-- Some of the classes are all asked for the same, and just these change in the mode. -/
theorem Tracks.asked (h : m.Tracks settings mode requested) {m' : Managers} {mode' : Mode}
    {s : SubnetSet} (concerned : MessageClass → Bool) (wanted : Bool) (digest : m'.digest = m.digest)
    (topics : m'.topics = m.topics.map fun t =>
      if concerned t.cls then ⟨t.channel.request wanted⟩ else t)
    (attestation : m'.attestation = if concerned .attestation then s else m.attestation)
    (serves : m.attestation.Serves s) (kept : s.Kept) (enabled : s.enabled = wanted)
    (requested_eq : s.requested = m.attestation.requested)
    (runs : ∀ c, mode'.runs c = if concerned c then wanted else mode.runs c) :
    m'.Tracks settings mode' requested := by
  have hruns := runs .attestation
  have htopics : m'.topics.map (·.standing) =
      MessageClass.single.map (settings.standing m.digest mode') := by
    rw [topics, standing_map_request, h.topics, List.map_map]
    apply List.map_congr_left
    intro c _
    exact congrArg ((⟨c, (settings.namer m.digest).topic (.ofClass c), none⟩ : Endpoint),
      settings.limit, ·) (runs c).symm
  by_cases hc : concerned .attestation = true
  · rw [if_pos hc] at attestation hruns
    subst attestation
    refine h.of_serves digest serves kept (enabled.trans hruns.symm) ?_ htopics
    rw [requested_eq]
    exact h.requested_iff
  · rw [if_neg hc] at attestation hruns
    refine h.of_serves digest ?_ ?_ ?_ ?_ htopics <;> rw [attestation]
    · exact .refl m.attestation
    · exact h.kept
    · rw [hruns, h.enabled]
    · exact h.requested_iff

theorem Tracks.subscribe (h : m.Tracks settings mode requested) (optimistic : Bool) :
    (m.subscribe optimistic).Tracks settings (mode.start optimistic) requested :=
  h.asked (mayRun optimistic) true rfl rfl rfl m.attestation.serves_subscribe h.kept.subscribe
    (SubnetSet.subscribe_enabled ..) (SubnetSet.subscribe_requested ..) (mode.runs_start optimistic)

theorem Tracks.stop (h : m.Tracks settings mode requested) :
    (m.unsubscribe true).Tracks settings .stopped requested :=
  h.asked (fun _ => true) false rfl rfl rfl m.attestation.serves_unsubscribe h.kept.unsubscribe rfl
    rfl fun _ => rfl

theorem Tracks.stopOptimistic (h : m.Tracks settings mode requested) :
    (m.unsubscribe false).Tracks settings mode.stopOptimistic requested :=
  h.asked (fun c => !mayRun true c) false rfl rfl rfl m.attestation.serves_unsubscribe
    h.kept.unsubscribe rfl rfl mode.runs_stopOptimistic

theorem Tracks.standing_eq (h : m.Tracks settings mode requested) {t : TopicManager}
    {c : MessageClass} (ht : t ∈ m.topics) (hc : t.cls = c) :
    t.standing = settings.standing m.digest mode c := by
  have hmem : t.standing ∈ m.topics.map (·.standing) := List.mem_map_of_mem ht
  rw [h.topics] at hmem
  obtain ⟨c', _, hs⟩ := List.mem_map.1 hmem
  have hcls : c' = t.cls := congrArg (·.1.cls) hs
  rw [← hs, hcls, hc]

theorem Tracks.topic? (h : m.Tracks settings mode requested) {c : MessageClass}
    (hc : c ≠ .attestation) :
    ∃ t, m.topic? c = some t ∧ t.standing = settings.standing m.digest mode c := by
  have hmem : settings.standing m.digest mode c ∈ m.topics.map (·.standing) := by
    rw [h.topics]
    exact List.mem_map_of_mem (MessageClass.mem_single.2 hc)
  obtain ⟨t₀, ht₀, hs₀⟩ := List.mem_map.1 hmem
  have hcls : t₀.cls = c := congrArg (·.1.cls) hs₀
  cases ht : m.topic? c with
  | none =>
    rw [Managers.topic?, List.find?_eq_none] at ht
    exact (ht t₀ ht₀ (by simpa using hcls)).elim
  | some t =>
    exact ⟨t, rfl, h.standing_eq (List.mem_of_find?_eq_some ht) (topic?_cls ht)⟩

theorem Tracks.topic?_attestation (h : m.Tracks settings mode requested) :
    m.topic? .attestation = none := by
  cases ht : m.topic? .attestation with
  | none => rfl
  | some t =>
    have hmem : t.standing ∈ m.topics.map (·.standing) :=
      List.mem_map_of_mem (List.mem_of_find?_eq_some ht)
    rw [h.topics] at hmem
    obtain ⟨c, hc, hs⟩ := List.mem_map.1 hmem
    have hcls : c = t.cls := congrArg (·.1.cls) hs
    rw [topic?_cls ht] at hcls
    exact (MessageClass.mem_single.1 hc hcls).elim

theorem Tracks.topic?_of_mem (h : m.Tracks settings mode requested) {t : TopicManager}
    (ht : t ∈ m.topics) : m.topic? t.cls = some t := by
  have hnodup : (m.topics.map (·.cls)).Nodup := by
    have hcls : m.topics.map (·.cls) = (m.topics.map (·.standing)).map (·.1.cls) := by
      rw [List.map_map]
      rfl
    rw [hcls, h.topics, List.map_map]
    exact (List.map_id MessageClass.single).symm ▸ (by decide : MessageClass.single.Nodup)
  rw [Managers.topic?]
  clear h
  generalize m.topics = topics at ht hnodup ⊢
  induction topics with
  | nil => cases ht
  | cons t' rest ih =>
    rw [List.map_cons, List.nodup_cons] at hnodup
    rcases List.mem_cons.1 ht with rfl | hm
    · simp
    · have hne : t'.cls ≠ t.cls := fun he => hnodup.1 (he ▸ List.mem_map_of_mem hm)
      rw [List.find?_cons_of_neg (by simpa using hne)]
      exact ih hm hnodup.2

theorem Tracks.turned (h : m.Tracks settings mode requested) {lane : Lane} {c c' : Channel}
    (hc : m.lanes.lookup lane = some c) (endpoint : c'.endpoint = c.endpoint)
    (limit : c'.limit = c.limit) (wanted : c'.wanted = c.wanted) :
    (m.onLane lane fun _ => c').Tracks settings mode requested := by
  cases lane with
  | sole =>
    rw [lookup_sole] at hc
    cases hc
  | subnet id =>
    rw [lookup_subnet] at hc
    have hk := h.kept.turned hc endpoint limit wanted
    exact ⟨h.namer, h.count, h.limit, hk, h.enabled, h.requested_iff, h.topics⟩
  | ofClass k =>
    rw [lookup_ofClass, Option.map_eq_some_iff] at hc
    obtain ⟨t₀, ht₀, rfl⟩ := hc
    have hs₀ := h.standing_eq (List.mem_of_find?_eq_some ht₀) (topic?_cls ht₀)
    refine ⟨h.namer, h.count, h.limit, h.kept, h.enabled, h.requested_iff, ?_⟩
    refine Eq.trans ?_ h.topics
    simp only [onLane, List.map_map]
    apply List.map_congr_left
    intro t ht
    simp only [Function.comp_apply]
    split
    case isTrue hk =>
      rw [h.standing_eq ht hk, ← hs₀, TopicManager.standing, TopicManager.standing, endpoint, limit,
        wanted]
    case isFalse => rfl

end Managers

namespace Controller

structure Tracks (c : Controller) (settings : Settings) (mode : Mode)
    (requested : SubnetId → Prop) : Prop where
  settings_eq : c.settings = settings
  unstarted : c.managers = none → mode = .stopped ∧ ∀ id, id ∈ c.waiting ↔ requested id
  started : ∀ m, c.managers = some m → c.waiting = [] ∧ m.Tracks settings mode requested

theorem Tracks.ofFork (fork : Fork) (settings : Settings) :
    (ofFork fork settings).Tracks settings .stopped fun _ => False := by
  refine ⟨rfl, fun _ => ⟨rfl, fun id => List.mem_nil_iff id⟩, ?_⟩
  intro m hm
  cases hm

variable {c : Controller} {settings : Settings} {mode : Mode} {requested : SubnetId → Prop}

theorem Tracks.of_none (hm : c.managers = none)
    (waiting : ∀ id, id ∈ c.waiting ↔ requested id) : c.Tracks c.settings .stopped requested := by
  refine ⟨rfl, fun _ => ⟨rfl, waiting⟩, ?_⟩
  intro m hm'
  rw [hm] at hm'
  cases hm'

theorem Tracks.of_some {m : Managers} (hm : c.managers = some m) (waiting : c.waiting = [])
    (h : m.Tracks c.settings mode requested) : c.Tracks c.settings mode requested := by
  refine ⟨rfl, ?_, ?_⟩
  · intro hn
    rw [hm] at hn
    cases hn
  · intro m' hm'
    rw [hm, Option.some.injEq] at hm'
    subst hm'
    exact ⟨waiting, h⟩

/-- Once the waiting subnets have been handed over, they count as requested. -/
theorem tracks_handOver {m : Managers} (hm : c.managers = some m)
    (h : m.Tracks c.settings mode requested) (r : Registry) (optimistic : Bool) :
    ((c.handOver r).1.subscribe optimistic).Tracks c.settings (mode.start optimistic)
      fun id => id ∈ c.waiting ∨ requested id := by
  rw [handOver_started hm]
  refine .of_some rfl rfl (Managers.Tracks.subscribe ?_ optimistic)
  refine h.withAttestation (m.attestation.serves_requests c.waiting r) (h.kept.requests ..)
    (SubnetSet.requests_enabled ..) fun id => ?_
  rw [SubnetSet.mem_requested_requests, h.requested_iff]

theorem Tracks.congr (h : c.Tracks settings mode requested) {requested' : SubnetId → Prop}
    (hr : ∀ id, requested id ↔ requested' id) : c.Tracks settings mode requested' := by
  have he : requested' = requested := funext fun id => propext (hr id).symm
  rw [he]
  exact h

theorem Tracks.start (h : c.Tracks settings mode requested) {root : Root} {optimistic : Bool}
    {schedule schedule' : Schedule} {r r' : Registry} {c' : Controller}
    (hs : c.start root optimistic schedule r = .ok (c', schedule', r')) :
    c'.Tracks settings (mode.start optimistic) requested := by
  obtain ⟨rfl, unstarted, started⟩ := h
  cases hm : c.managers with
  | some m =>
    rw [start_started hm] at hs
    simp only [Except.ok.injEq, Prod.mk.injEq] at hs
    obtain ⟨hw, ht⟩ := started m hm
    rw [← hs.1]
    apply (tracks_handOver hm ht r optimistic).congr
    intro id
    simp [hw]
  | none =>
    rw [start_unstarted hm] at hs
    obtain ⟨rfl, hw⟩ := unstarted hm
    split at hs
    · cases hs
    · rename_i digest _ _
      simp only [Except.ok.injEq, Prod.mk.injEq] at hs
      have ht := Managers.Tracks.fresh c.settings ⟨c.fork, root⟩ digest
      rw [← hs.1]
      apply (tracks_handOver (c := c.built root digest) rfl ht _ optimistic).congr
      intro id
      rw [or_false]
      exact hw id

theorem Tracks.map (h : c.Tracks settings mode requested) {c' : Controller} {g : Managers → Managers}
    {mode' : Mode} (managers : c'.managers = c.managers.map g) (waiting : c'.waiting = c.waiting)
    (hs : c'.settings = c.settings) (stopped : mode = .stopped → mode' = .stopped)
    (hg : ∀ m : Managers, m.Tracks settings mode requested →
      (g m).Tracks settings mode' requested) : c'.Tracks settings mode' requested := by
  refine ⟨hs.trans h.settings_eq, ?_, ?_⟩
  · intro hn
    rw [managers, Option.map_eq_none_iff] at hn
    rw [waiting]
    exact ⟨stopped (h.unstarted hn).1, (h.unstarted hn).2⟩
  · intro m' hm'
    rw [managers, Option.map_eq_some_iff] at hm'
    obtain ⟨m, hm, rfl⟩ := hm'
    rw [waiting]
    exact ⟨(h.started m hm).1, hg m (h.started m hm).2⟩

theorem Tracks.stop (h : c.Tracks settings mode requested) :
    c.stop.Tracks settings .stopped requested :=
  h.map rfl rfl rfl (fun _ => rfl) fun _ ht => ht.stop

theorem Tracks.stopOptimistic (h : c.Tracks settings mode requested) :
    c.stopOptimistic.Tracks settings mode.stopOptimistic requested := by
  refine h.map rfl rfl rfl ?_ fun _ ht => ht.stopOptimistic
  intro hm
  rw [hm]
  rfl

theorem Tracks.requestSubnet (h : c.Tracks settings mode requested) {index : UInt64}
    {r r' : Registry} {c' : Controller} (hs : c.requestSubnet index r = .ok (c', r')) :
    index < settings.subnetCount ∧
      c'.Tracks settings mode fun id => id = ⟨index⟩ ∨ requested id := by
  obtain ⟨rfl, unstarted, started⟩ := h
  obtain ⟨hi, ⟨hm, rfl⟩ | ⟨m, hm, rfl⟩⟩ := requestSubnet_ok hs
  · obtain ⟨rfl, hw⟩ := unstarted hm
    refine ⟨hi, .of_none hm ?_⟩
    intro id
    rw [SubnetId.mem_insert, hw]
  · obtain ⟨hw, ht⟩ := started m hm
    refine ⟨hi, .of_some rfl hw (ht.withAttestation (SubnetSet.serves_request ..)
      (ht.kept.request ..) (SubnetSet.request_enabled ..) fun id => ?_)⟩
    rw [SubnetSet.mem_requested_request, ht.requested_iff]

theorem Tracks.releaseSubnet (h : c.Tracks settings mode requested) {index : UInt64}
    {r r' : Registry} {c' : Controller} (hs : c.releaseSubnet index r = .ok (c', r')) :
    index < settings.subnetCount ∧
      c'.Tracks settings mode fun id => requested id ∧ id ≠ ⟨index⟩ := by
  obtain ⟨rfl, unstarted, started⟩ := h
  obtain ⟨hi, ⟨hm, rfl⟩ | ⟨m, hm, rfl⟩⟩ := releaseSubnet_ok hs
  · obtain ⟨rfl, hw⟩ := unstarted hm
    refine ⟨hi, .of_none hm ?_⟩
    intro id
    rw [List.mem_filter, hw, decide_eq_true_eq]
  · obtain ⟨hw, ht⟩ := started m hm
    refine ⟨hi, .of_some rfl hw (ht.withAttestation (SubnetSet.serves_release ..)
      (ht.kept.release ..) (SubnetSet.release_enabled ..) fun id => ?_)⟩
    rw [SubnetSet.mem_requested_release, ht.requested_iff]

theorem Tracks.publishAttestation (h : c.Tracks settings mode requested) (a : GossipAttestation)
    (hub : Hub) : (c.publishAttestation a hub).2.1.Tracks settings mode requested := by
  rw [publishAttestation_controller]
  refine h.map rfl rfl rfl id ?_
  intro m ht
  obtain ⟨henabled, hrequested⟩ := m.attestation.offer_fields a hub
  refine ht.withAttestation (m.attestation.serves_offer a hub) (ht.kept.offer a hub) henabled
    fun id => ?_
  rw [hrequested, ht.requested_iff]

theorem Tracks.turned (h : c.Tracks settings mode requested) {lane : Lane} {d d' : Channel}
    (hd : (GossipObject.controller c).channel? lane = some d) (endpoint : d'.endpoint = d.endpoint)
    (limit : d'.limit = d.limit) (wanted : d'.wanted = d.wanted) :
    ({ c with managers := c.managers.map (·.onLane lane fun _ => d') }
      : Controller).Tracks settings mode requested := by
  refine ⟨h.settings_eq, ?_, ?_⟩
  · intro hn
    exact h.unstarted (Option.map_eq_none_iff.1 hn)
  · intro m' hm'
    obtain ⟨m, hm, rfl⟩ := Option.map_eq_some_iff.1 hm'
    rw [GossipObject.channel?_started hm] at hd
    exact ⟨(h.started m hm).1, (h.started m hm).2.turned hd endpoint limit wanted⟩

end Controller

end BeaconGossip
