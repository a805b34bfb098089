import BeaconGossip.Proofs.Controller.Identity
import BeaconGossip.Proofs.Node.Lasting

namespace BeaconGossip

open Node (Act Lasting)

/-- The endpoint and the limit that a manager of the class is given. -/
def Settings.post (settings : Settings) (digest : ForkDigest) (cls : MessageClass) :
    Endpoint × Nat :=
  (⟨cls, (settings.namer digest).topic (.ofClass cls), none⟩, settings.limit)

def TopicManager.post (t : TopicManager) : Endpoint × Nat := (t.channel.endpoint, t.channel.limit)

namespace Managers

def posts (m : Managers) : List (Endpoint × Nat) := m.topics.map (·.post)

def Posted (m : Managers) (settings : Settings) : Prop :=
  m.posts = MessageClass.single.map (settings.post m.digest)

variable {m : Managers} {settings : Settings}

theorem posted_fresh (settings : Settings) (info : ForkInfo) (digest : ForkDigest) :
    (fresh settings info digest).Posted settings := by
  rw [Posted, posts, fresh, List.map_map]
  rfl

theorem Posted.post_eq (h : m.Posted settings) {t : TopicManager} (ht : t ∈ m.topics) :
    t.post = settings.post m.digest t.cls := by
  have hmem : t.post ∈ m.posts := List.mem_map_of_mem ht
  rw [h] at hmem
  obtain ⟨cls, -, he⟩ := List.mem_map.1 hmem
  have hcls : cls = t.cls := congrArg (·.1.cls) he
  rw [← he, hcls]

theorem Posted.topic? (h : m.Posted settings) {c : MessageClass} (hc : c ≠ .attestation) :
    ∃ t, m.topic? c = some t ∧ t.post = settings.post m.digest c := by
  have hmem : settings.post m.digest c ∈ m.posts := by
    rw [h]
    exact List.mem_map_of_mem (MessageClass.mem_single.2 hc)
  obtain ⟨t₀, ht₀, he⟩ := List.mem_map.1 hmem
  have hcls : t₀.cls = c := congrArg (·.1.cls) he
  cases ht : m.topic? c with
  | none =>
    rw [Managers.topic?, List.find?_eq_none] at ht
    exact (ht t₀ ht₀ (by simpa using hcls)).elim
  | some t =>
    have post := h.post_eq (List.mem_of_find?_eq_some ht)
    rw [topic?_cls ht] at post
    exact ⟨t, rfl, post⟩

theorem posts_map_request (topics : List TopicManager) (concerned : MessageClass → Bool)
    (wanted : Bool) :
    (topics.map fun t => if concerned t.cls then ⟨t.channel.request wanted⟩ else t).map
        (·.post) = topics.map (·.post) := by
  rw [List.map_map]
  apply List.map_congr_left
  intro t _
  rw [Function.comp_apply]
  split <;> rfl

theorem posts_subscribe (m : Managers) (optimistic : Bool) :
    (m.subscribe optimistic).posts = m.posts :=
  posts_map_request m.topics (mayRun optimistic) true

theorem posts_unsubscribe (m : Managers) (all : Bool) : (m.unsubscribe all).posts = m.posts :=
  posts_map_request m.topics (fun cls => all || !mayRun true cls) false

theorem Posted.posts_onLane (h : m.Posted settings) {lane : Lane} {c c' : Channel}
    (hc : m.lanes.lookup lane = some c) (endpoint : c'.endpoint = c.endpoint)
    (limit : c'.limit = c.limit) : (m.onLane lane fun _ => c').posts = m.posts := by
  cases lane with
  | ofClass cls =>
    rw [lookup_ofClass] at hc
    obtain ⟨t, ht, rfl⟩ := Option.map_eq_some_iff.1 hc
    have post : (⟨c'⟩ : TopicManager).post = settings.post m.digest cls := by
      rw [← topic?_cls ht, ← h.post_eq (List.mem_of_find?_eq_some ht)]
      exact congrArg₂ Prod.mk endpoint limit
    simp only [posts, onLane, List.map_map]
    apply List.map_congr_left
    intro t' ht'
    rw [Function.comp_apply]
    split
    case isTrue hk => rw [post, h.post_eq ht', hk]
    case isFalse => rfl
  | _ => rfl

end Managers

namespace Controller

def Posted (c : Controller) : Prop := ∀ m, c.managers = some m → m.Posted c.settings

variable {c c' : Controller} {r r' : Registry}

namespace Posted

theorem unstarted (hm : c.managers = none) : c.Posted := by
  intro m h
  rw [hm] at h
  cases h

theorem map (h : c.Posted) {g : Managers → Managers} (settings : c'.settings = c.settings)
    (managers : c'.managers = c.managers.map g)
    (same : ∀ m, c.managers = some m → (g m).digest = m.digest ∧ (g m).posts = m.posts) :
    c'.Posted := by
  intro m' hm'
  rw [managers] at hm'
  obtain ⟨m, hm, rfl⟩ := Option.map_eq_some_iff.1 hm'
  obtain ⟨digest, posts⟩ := same m hm
  rw [Managers.Posted, settings, digest, posts]
  exact h m hm

theorem subscribe (h : c.Posted) (head : Bool) : (c.subscribe head).Posted :=
  h.map rfl rfl fun m _ => ⟨rfl, m.posts_subscribe head⟩

theorem unsubscribe (h : c.Posted) {all : Bool} (settings : c'.settings = c.settings)
    (managers : c'.managers = c.managers.map (·.unsubscribe all)) : c'.Posted :=
  h.map settings managers fun m _ => ⟨rfl, m.posts_unsubscribe all⟩

theorem withAttestation (h : c.Posted) {m : Managers} (hm : c.managers = some m) (s : SubnetSet)
    (waiting : List SubnetId) :
    { c with managers := some { m with attestation := s }, waiting := waiting }.Posted := by
  intro m' hm'
  obtain rfl := Option.some.inj hm'
  exact h m hm

theorem handOver (h : c.Posted) (r : Registry) : (c.handOver r).1.Posted := by
  cases hm : c.managers with
  | none => simpa only [Controller.handOver, hm] using h
  | some m =>
    rw [handOver_started hm]
    exact h.withAttestation hm _ _

theorem build (h : c.Posted) {root : Root} {schedule schedule' : Schedule}
    (hb : c.build root schedule r = .ok (c', schedule', r')) : c'.Posted := by
  obtain ⟨-, rfl, -⟩ | ⟨-, digest, -, rfl, -⟩ := build_ok hb
  · exact h
  · intro m hm
    obtain rfl := Option.some.inj hm
    exact Managers.posted_fresh c.settings ⟨c.fork, root⟩ digest

theorem start (h : c.Posted) {root : Root} {head : Bool} {schedule schedule' : Schedule}
    (hs : c.start root head schedule r = .ok (c', schedule', r')) : c'.Posted := by
  obtain ⟨c₁, r₁, built, rfl, -⟩ := start_build hs
  exact ((h.build built).handOver r₁).subscribe head

theorem performed (h : c.Posted) (node : Node) (act : Act) : (c.performed node act).Posted := by
  cases act with
  | start root head =>
    simp only [Controller.performed]
    split
    · rename_i hs
      exact h.start hs
    · exact h
  | stop => exact h.unsubscribe rfl rfl
  | stopOptimistic => exact h.unsubscribe rfl rfl
  | requestSubnet index =>
    simp only [Controller.performed]
    split
    · rename_i hr
      obtain ⟨-, ⟨hm, rfl⟩ | ⟨m, hm, rfl⟩⟩ := requestSubnet_ok hr
      · exact .unstarted hm
      · exact h.withAttestation hm _ _
    · exact h
  | releaseSubnet index =>
    simp only [Controller.performed]
    split
    · rename_i hr
      obtain ⟨-, ⟨hm, rfl⟩ | ⟨m, hm, rfl⟩⟩ := releaseSubnet_ok hr
      · exact .unstarted hm
      · exact h.withAttestation hm _ _
    · exact h
  | publishAttestation n =>
    simp only [Controller.performed]
    split
    · rw [publishAttestation_controller]
      exact h.map rfl rfl fun _ _ => ⟨rfl, rfl⟩
    · exact h
  | _ => exact h

end Posted

end Controller

namespace GossipObject

def Posted : GossipObject → Prop
  | controller c => c.Posted
  | _ => True

theorem Posted.turn {o : GossipObject} (h : o.Posted) {lane : Lane} {c : Channel}
    (hc : o.channel? lane = some c) (hub : Hub) :
    (o.onLane lane fun _ => (c.poll hub).1).Posted := by
  cases o with
  | controller d =>
    have same : ∀ m, d.managers = some m →
        (m.onLane lane fun _ => (c.poll hub).1).digest = m.digest ∧
          (m.onLane lane fun _ => (c.poll hub).1).posts = m.posts := by
      intro m hm
      rw [channel?_started hm] at hc
      refine ⟨?_, (h m hm).posts_onLane hc (c.poll_endpoint hub) (c.poll_limit hub)⟩
      cases lane <;> rfl
    exact Controller.Posted.map h rfl rfl same
  | _ => cases lane <;> trivial

end GossipObject

theorem Node.lasting_posted : Lasting GossipObject.Posted where
  controller _ _ := .unstarted rfl
  manager _ _ _ := trivial
  subnets _ _ := trivial
  channel _ _ := trivial
  act := by
    intro o h node act
    cases o with
    | controller c => exact Controller.Posted.performed h node act
    | _ => trivial
  turn h hc hub := h.turn hc hub
  build h hb := Controller.Posted.build h hb
  handOver h r := Controller.Posted.handOver h r
  join h head := Controller.Posted.subscribe h head

end BeaconGossip
