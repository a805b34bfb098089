import BeaconGossip.Proofs.SubnetSet.Channels

namespace BeaconGossip.SubnetSet

open Channel

/-- The endpoint of the subnet's topic. -/
def endpoint (s : SubnetSet) (id : SubnetId) : Endpoint :=
  ⟨.attestation, s.namer.topic (.subnet id), some id⟩

/-- The subnet has a channel, which is wanted. -/
def Wants (s : SubnetSet) (id : SubnetId) : Prop :=
  ∃ c, s.channel? id = some c ∧ c.wanted = true

structure Kept (s : SubnetSet) : Prop where
  ordered : s.Ordered
  endpoint : ∀ id c, s.channel? id = some c → c.endpoint = s.endpoint id ∧ c.limit = s.limit
  wants : ∀ id, s.Wants id ↔ s.enabled = true ∧ id ∈ s.requested

theorem Kept.fresh (settings : Settings) (digest : ForkDigest) : (fresh settings digest).Kept := by
  refine ⟨List.Pairwise.nil, ?_, ?_⟩
  · intro id c hc
    cases hc
  · intro id
    constructor
    · rintro ⟨c, hc, _⟩
      cases hc
    · rintro ⟨he, _⟩
      cases he

/-- Whatever is asked of the set, each channel keeps the endpoint of its subnet. -/
theorem Kept.of_serves {s s' : SubnetSet} (h : s.Kept) (hs : s.Serves s')
    (wants : ∀ id, s'.Wants id ↔ s'.enabled = true ∧ id ∈ s'.requested) : s'.Kept := by
  refine ⟨hs.ordered h.ordered, ?_, wants⟩
  intro id c' hc'
  have hend : s'.endpoint id = s.endpoint id := by rw [SubnetSet.endpoint, SubnetSet.endpoint, hs.namer]
  rw [hend, hs.limit]
  have hv := hs.served h.ordered id
  rw [hc'] at hv
  generalize hb : s.channel? id = before at hv
  cases hv with
  | opened requests => exact ⟨requestAll_endpoint .., requestAll_limit ..⟩
  | kept c requests =>
    rw [requestAll_endpoint, requestAll_limit]
    exact h.endpoint id c hb

theorem wants_withChannel {s : SubnetSet} (h : s.Ordered) (id x : SubnetId) :
    (s.withChannel id Channel.subscribe).Wants x ↔ x = id ∨ s.Wants x := by
  rw [Wants, h.channel?_withChannel]
  by_cases hx : x = id
  · simp [hx, Channel.subscribe, Channel.request]
  · rw [if_neg hx, or_iff_right hx]
    exact Iff.rfl

theorem wants_open {s : SubnetSet} (h : s.Ordered) (id x : SubnetId) :
    (s.withChannel id fun c => c).Wants x ↔ s.Wants x := by
  rw [Wants, Wants, h.channel?_withChannel]
  by_cases hx : x = id
  · subst hx
    cases hc : s.channel? x with
    | none => simp [newChannel, Channel.fresh]
    | some c => simp
  · rw [if_neg hx]

theorem wants_onChannel (s : SubnetSet) (id x : SubnetId) :
    (s.onChannel id Channel.unsubscribe).Wants x ↔ s.Wants x ∧ x ≠ id := by
  rw [Wants, channel?_onChannel]
  by_cases hx : x = id
  · simp [hx, Channel.unsubscribe, Channel.request]
  · rw [if_neg hx, and_iff_left hx]
    exact Iff.rfl

theorem wants_setEnabled (s : SubnetSet) (enabled : Bool) (x : SubnetId) :
    { s with enabled := enabled }.Wants x ↔ s.Wants x := Iff.rfl

theorem wants_setRequested (s : SubnetSet) (requested : List SubnetId) (x : SubnetId) :
    { s with requested := requested }.Wants x ↔ s.Wants x := Iff.rfl

section Fields

variable (s : SubnetSet) (id : SubnetId) (r : Registry)

theorem request_enabled : (s.request id r).1.enabled = s.enabled := by
  unfold request
  split
  · rfl
  · simp only
    split <;> rfl

theorem mem_requested_request {x : SubnetId} :
    x ∈ (s.request id r).1.requested ↔ x = id ∨ x ∈ s.requested := by
  unfold request
  split
  case isTrue hm =>
    constructor
    · exact .inr
    · rintro (rfl | hx)
      · exact hm
      · exact hx
  case isFalse =>
    simp only
    split <;> exact SubnetId.mem_insert

theorem release_enabled : (s.release id r).1.enabled = s.enabled := by
  unfold release
  split <;> rfl

theorem mem_requested_release {x : SubnetId} :
    x ∈ (s.release id r).1.requested ↔ x ∈ s.requested ∧ x ≠ id := by
  unfold release
  split
  case isTrue => simp [onChannel]
  case isFalse hm =>
    constructor
    · intro hx
      exact ⟨hx, fun he => hm (he ▸ hx)⟩
    · exact And.left

theorem joinAll_fields (ids : List SubnetId) :
    (ids.foldl (fun s id => s.withChannel id Channel.subscribe) s).enabled = s.enabled ∧
      (ids.foldl (fun s id => s.withChannel id Channel.subscribe) s).requested = s.requested := by
  induction ids generalizing s with
  | nil => exact ⟨rfl, rfl⟩
  | cons id rest ih => exact ih (s.withChannel id Channel.subscribe)

theorem subscribe_enabled : s.subscribe.enabled = true := (joinAll_fields _ _).1

theorem subscribe_requested : s.subscribe.requested = s.requested := (joinAll_fields _ _).2

end Fields

theorem Kept.request {s : SubnetSet} (h : s.Kept) (id : SubnetId) (r : Registry) :
    (s.request id r).1.Kept := by
  apply h.of_serves (serves_request s id r)
  intro x
  rw [request_enabled, mem_requested_request]
  unfold SubnetSet.request
  split
  case isTrue hm =>
    rw [h.wants]
    constructor
    · exact And.imp_right .inr
    · rintro ⟨he, rfl | hx⟩
      · exact ⟨he, hm⟩
      · exact ⟨he, hx⟩
  case isFalse =>
    simp only
    split
    case isTrue he =>
      refine (wants_withChannel (s := { s with requested := id.insert s.requested }) h.ordered
        id x).trans ?_
      rw [wants_setRequested, h.wants]
      simp only [he, true_and]
    case isFalse he =>
      rw [wants_setRequested, h.wants]
      simp only [he, Bool.false_eq_true, false_and]

theorem Kept.requests {s : SubnetSet} (h : s.Kept) (ids : List SubnetId) (r : Registry) :
    (ids.foldl (fun (s, r) id => SubnetSet.request s id r) (s, r)).1.Kept := by
  induction ids generalizing s r with
  | nil => exact h
  | cons id rest ih => exact ih (h.request id r) _

theorem requests_enabled (s : SubnetSet) (ids : List SubnetId) (r : Registry) :
    (ids.foldl (fun (s, r) id => SubnetSet.request s id r) (s, r)).1.enabled = s.enabled := by
  induction ids generalizing s r with
  | nil => rfl
  | cons id rest ih => exact (ih _ _).trans (s.request_enabled id r)

theorem mem_requested_requests (s : SubnetSet) (ids : List SubnetId) (r : Registry) {x : SubnetId} :
    x ∈ (ids.foldl (fun (s, r) id => SubnetSet.request s id r) (s, r)).1.requested ↔
      x ∈ ids ∨ x ∈ s.requested := by
  induction ids generalizing s r with
  | nil => simp
  | cons id rest ih =>
    apply (ih (s.request id r).1 (s.request id r).2).trans
    rw [mem_requested_request, List.mem_cons, or_left_comm, or_assoc]

theorem Kept.release {s : SubnetSet} (h : s.Kept) (id : SubnetId) (r : Registry) :
    (s.release id r).1.Kept := by
  apply h.of_serves (serves_release s id r)
  intro x
  rw [release_enabled, mem_requested_release, ← and_assoc, ← h.wants]
  unfold SubnetSet.release
  split
  case isTrue => exact wants_onChannel _ id x
  case isFalse hm =>
    constructor
    · intro hw
      exact ⟨hw, fun he => hm (he ▸ ((h.wants x).1 hw).2)⟩
    · exact And.left

theorem wants_joinAll (ids : List SubnetId) {s : SubnetSet} (h : s.Ordered) (x : SubnetId) :
    (ids.foldl (fun s id => s.withChannel id Channel.subscribe) s).Wants x ↔
      x ∈ ids ∨ s.Wants x := by
  induction ids generalizing s with
  | nil => simp
  | cons id rest ih =>
    rw [List.foldl_cons, ih (h.withChannel id Channel.subscribe), wants_withChannel h,
      List.mem_cons, or_left_comm, or_assoc]

theorem Kept.subscribe {s : SubnetSet} (h : s.Kept) : s.subscribe.Kept := by
  apply h.of_serves (serves_subscribe s)
  intro x
  apply (wants_joinAll s.requested (s := { s with enabled := true }) h.ordered x).trans
  rw [subscribe_enabled, subscribe_requested, wants_setEnabled, h.wants]
  constructor
  · rintro (hx | hx)
    · exact ⟨rfl, hx⟩
    · exact ⟨rfl, hx.2⟩
  · exact fun hx => .inl hx.2

theorem Kept.unsubscribe {s : SubnetSet} (h : s.Kept) : s.unsubscribe.Kept := by
  apply h.of_serves (serves_unsubscribe s)
  intro x
  rw [Wants, channel?_unsubscribe]
  simp [Channel.unsubscribe, Channel.request, SubnetSet.unsubscribe]

theorem Kept.gossip {s : SubnetSet} (h : s.Kept) (a : GossipAttestation) (hub : Hub) :
    (s.gossip a hub).2.1.Kept := by
  apply h.of_serves (serves_gossip s a hub)
  intro x
  exact (wants_open h.ordered _ x).trans (h.wants x)

theorem offer_fields (s : SubnetSet) (a : GossipAttestation) (h : Hub) :
    (s.offer a h).2.1.enabled = s.enabled ∧ (s.offer a h).2.1.requested = s.requested := by
  unfold offer
  simp only
  split
  · split <;> exact ⟨rfl, rfl⟩
  · exact ⟨rfl, rfl⟩

theorem Kept.offer {s : SubnetSet} (h : s.Kept) (a : GossipAttestation) (hub : Hub) :
    (s.offer a hub).2.1.Kept := by
  unfold SubnetSet.offer
  simp only
  split
  · split
    · exact h.gossip ..
    · exact h
  · exact h

theorem Kept.turned {s : SubnetSet} (h : s.Kept) {id : SubnetId} {c c' : Channel}
    (hc : s.channel? id = some c) (endpoint : c'.endpoint = c.endpoint) (limit : c'.limit = c.limit)
    (wanted : c'.wanted = c.wanted) : (s.onChannel id fun _ => c').Kept := by
  refine ⟨h.ordered.onChannel id _, ?_, ?_⟩
  · intro x d hd
    rw [channel?_onChannel] at hd
    by_cases hx : x = id
    · subst hx
      rw [if_pos rfl, hc, Option.map_some, Option.some.injEq] at hd
      subst hd
      rw [endpoint, limit]
      exact h.endpoint x c hc
    · rw [if_neg hx] at hd
      exact h.endpoint x d hd
  · intro x
    refine Iff.trans ?_ (h.wants x)
    rw [Wants, Wants, channel?_onChannel]
    by_cases hx : x = id
    · subst hx
      simp [hc, wanted]
    · rw [if_neg hx]

end BeaconGossip.SubnetSet
