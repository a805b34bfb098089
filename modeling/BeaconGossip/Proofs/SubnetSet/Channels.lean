import BeaconGossip.Proofs.Channel.Run
import BeaconGossip.SubnetSet
import Mathlib.Data.List.Basic

namespace BeaconGossip

namespace Channel

/-- The channel after several requests. -/
def requestAll (c : Channel) (requests : List Bool) : Channel := requests.foldl request c

/-- What becomes of a channel when its owner is asked for something: it may be opened, starting from
the given one, and it is requested a number of things. -/
inductive Served (start : Channel) : Option Channel → Option Channel → Prop where
  | absent : Served start none none
  | opened (requests : List Bool) : Served start none (some (start.requestAll requests))
  | kept (c : Channel) (requests : List Bool) :
    Served start (some c) (some (c.requestAll requests))

theorem Served.refl (start : Channel) (c : Option Channel) : Served start c c := by
  cases c with
  | none => exact .absent
  | some c => exact .kept c []

theorem Served.trans {start : Channel} {c c' c'' : Option Channel} (h : Served start c c')
    (h' : Served start c' c'') : Served start c c'' := by
  cases h with
  | absent => exact h'
  | opened requests =>
    cases h' with
    | kept _ requests' =>
      have happ := @Served.opened start (requests ++ requests')
      rw [requestAll, List.foldl_append] at happ
      exact happ
  | kept c requests =>
    cases h' with
    | kept _ requests' =>
      have happ := @Served.kept start c (requests ++ requests')
      rw [requestAll, List.foldl_append] at happ
      exact happ

theorem Served.request (start : Channel) (c : Option Channel) (wanted : Bool) :
    Served start c (some ((c.getD start).request wanted)) := by
  cases c with
  | none => exact .opened [wanted]
  | some c => exact .kept c [wanted]

theorem Served.map_request (start : Channel) (c : Option Channel) (wanted : Bool) :
    Served start c (c.map (·.request wanted)) := by
  cases c with
  | none => exact .absent
  | some c => exact .kept c [wanted]

theorem requestAll_endpoint (c : Channel) (requests : List Bool) :
    (c.requestAll requests).endpoint = c.endpoint := by
  induction requests generalizing c with
  | nil => rfl
  | cons wanted rest ih => exact ih (c.request wanted)

theorem requestAll_limit (c : Channel) (requests : List Bool) :
    (c.requestAll requests).limit = c.limit := by
  induction requests generalizing c with
  | nil => rfl
  | cons wanted rest ih => exact ih (c.request wanted)

end Channel

namespace SubnetId

theorem mem_insert {id x : SubnetId} {ids : List SubnetId} :
    x ∈ id.insert ids ↔ x = id ∨ x ∈ ids := by
  fun_induction insert id ids with
  | case1 => simp
  | case2 y rest h => simp
  | case3 rest h => simp
  | case4 y rest h hne ih =>
    simp only [List.mem_cons, ih]
    exact or_left_comm

end SubnetId

namespace SubnetSet

open Channel

/-- The channels ascend, so that there is one for a subnet at most. -/
def Ordered (s : SubnetSet) : Prop := s.channels.Pairwise fun a b => a.1.index < b.1.index

section Channels

variable {channels : List (SubnetId × Channel)} {id : SubnetId} {start : Channel}
  {f : Channel → Channel}

theorem lookup_upsert_ne {x : SubnetId} (hx : x ≠ id) :
    (upsert id start f channels).lookup x = channels.lookup x := by
  have hb : (x == id) = false := by simpa using hx
  fun_induction upsert id start f channels with
  | case1 => simpa using hx
  | case2 => simp [List.lookup_cons, hb]
  | case3 => simp [List.lookup_cons, hb]
  | case4 y c rest hlt hne ih => simp only [List.lookup_cons, ih]

theorem lookup_eq_none_of_lt (h : ∀ entry ∈ channels, id.index < entry.1.index) :
    channels.lookup id = none := by
  rw [List.lookup_eq_none_iff]
  intro entry he
  have hlt := h entry he
  rw [bne_iff_ne]
  rintro rfl
  exact UInt64.lt_irrefl _ hlt

theorem lookup_upsert_self (ordered : channels.Pairwise fun a b => a.1.index < b.1.index) :
    (upsert id start f channels).lookup id = some (f ((channels.lookup id).getD start)) := by
  fun_induction upsert id start f channels with
  | case1 => simp
  | case2 y c rest hlt =>
    have hnone : ((y, c) :: rest).lookup id = none := by
      apply lookup_eq_none_of_lt
      intro entry he
      rcases List.mem_cons.1 he with rfl | he
      · exact hlt
      · exact UInt64.lt_trans hlt (List.rel_of_pairwise_cons ordered he)
    simp [hnone]
  | case3 c rest hlt => simp
  | case4 y c rest hlt hne ih =>
    have hb : (id == y) = false := by simpa using hne
    simp only [List.lookup_cons, hb]
    exact ih ordered.of_cons

theorem mem_upsert {entry : SubnetId × Channel} (h : entry ∈ upsert id start f channels) :
    entry.1 = id ∨ ∃ entry' ∈ channels, entry'.1 = entry.1 := by
  fun_induction upsert id start f channels with
  | case1 =>
    rw [List.mem_singleton] at h
    exact .inl (congrArg Prod.fst h)
  | case2 y c rest hlt =>
    rcases List.mem_cons.1 h with rfl | h
    · exact .inl rfl
    · exact .inr ⟨entry, h, rfl⟩
  | case3 c rest hlt =>
    rcases List.mem_cons.1 h with rfl | h
    · exact .inl rfl
    · exact .inr ⟨entry, List.mem_cons_of_mem _ h, rfl⟩
  | case4 y c rest hlt hne ih =>
    rcases List.mem_cons.1 h with rfl | h
    · exact .inr ⟨_, List.mem_cons_self, rfl⟩
    · rcases ih h with he | ⟨entry', hm, he⟩
      · exact .inl he
      · exact .inr ⟨entry', List.mem_cons_of_mem _ hm, he⟩

theorem pairwise_upsert (ordered : channels.Pairwise fun a b => a.1.index < b.1.index) :
    (upsert id start f channels).Pairwise fun a b => a.1.index < b.1.index := by
  fun_induction upsert id start f channels with
  | case1 => exact List.pairwise_singleton ..
  | case2 y c rest hlt =>
    apply List.Pairwise.cons _ ordered
    intro entry he
    rcases List.mem_cons.1 he with rfl | he
    · exact hlt
    · exact UInt64.lt_trans hlt (List.rel_of_pairwise_cons ordered he)
  | case3 c rest hlt =>
    exact ordered.of_cons.cons fun entry he => List.rel_of_pairwise_cons ordered he
  | case4 y c rest hlt hne ih =>
    apply List.Pairwise.cons _ (ih ordered.of_cons)
    intro entry he
    rcases mem_upsert he with heq | ⟨entry', hm, heq⟩
    · rw [heq]
      have hle := UInt64.not_lt.1 hlt
      apply UInt64.lt_of_le_of_ne hle
      intro hi
      apply hne
      obtain ⟨i⟩ := id
      obtain ⟨j⟩ := y
      exact congrArg SubnetId.mk hi.symm
    · rw [← heq]
      exact List.rel_of_pairwise_cons ordered hm

theorem lookup_mapValues (g : SubnetId → Channel → Channel) (x : SubnetId) :
    (channels.map fun (y, c) => (y, g y c)).lookup x = (channels.lookup x).map (g x) := by
  induction channels with
  | nil => rfl
  | cons entry rest ih =>
    obtain ⟨y, c⟩ := entry
    by_cases hx : x = y
    · subst hx
      simp
    · simp only [List.map_cons, List.lookup_cons, beq_eq_false_iff_ne.2 hx, ih]

end Channels

theorem Ordered.withChannel {s : SubnetSet} (h : s.Ordered) (id : SubnetId)
    (f : Channel → Channel) : (s.withChannel id f).Ordered := pairwise_upsert h

theorem Ordered.channel?_withChannel {s : SubnetSet} (h : s.Ordered) (id : SubnetId)
    (f : Channel → Channel) (x : SubnetId) :
    (s.withChannel id f).channel? x =
      if x = id then some (f ((s.channel? id).getD (s.newChannel id))) else s.channel? x := by
  by_cases hx : x = id
  · subst hx
    rw [if_pos rfl]
    exact lookup_upsert_self h
  · rw [if_neg hx]
    exact lookup_upsert_ne hx

theorem onChannel_channels (s : SubnetSet) (id : SubnetId) (f : Channel → Channel) :
    (s.onChannel id f).channels =
      s.channels.map fun (x, c) => (x, if x = id then f c else c) := by
  apply List.map_congr_left
  rintro ⟨x, c⟩ _
  by_cases hx : x = id <;> simp [hx]

theorem channel?_onChannel (s : SubnetSet) (id : SubnetId) (f : Channel → Channel)
    (x : SubnetId) :
    (s.onChannel id f).channel? x =
      if x = id then (s.channel? x).map f else s.channel? x := by
  rw [channel?, onChannel_channels, lookup_mapValues fun x c => if x = id then f c else c]
  by_cases hx : x = id
  · simp only [if_pos hx, channel?]
  · simp only [if_neg hx, channel?, Option.map_id']

theorem Ordered.onChannel {s : SubnetSet} (h : s.Ordered) (id : SubnetId)
    (f : Channel → Channel) : (s.onChannel id f).Ordered := by
  rw [Ordered, onChannel_channels, List.pairwise_map]
  exact h

theorem channel?_unsubscribe (s : SubnetSet) (x : SubnetId) :
    s.unsubscribe.channel? x = (s.channel? x).map Channel.unsubscribe :=
  lookup_mapValues (fun _ c => c.unsubscribe) x

theorem Ordered.unsubscribe {s : SubnetSet} (h : s.Ordered) : s.unsubscribe.Ordered := by
  rw [Ordered, SubnetSet.unsubscribe, List.pairwise_map]
  exact h

theorem Ordered.channel?_eq_some {s : SubnetSet} (h : s.Ordered) {id : SubnetId} {c : Channel} :
    s.channel? id = some c ↔ (id, c) ∈ s.channels := by
  rw [Ordered] at h
  rw [channel?]
  generalize s.channels = channels at h ⊢
  induction channels with
  | nil => simp
  | cons entry rest ih =>
    obtain ⟨x, d⟩ := entry
    have hlt : ∀ e ∈ rest, x.index < e.1.index := (List.pairwise_cons.1 h).1
    by_cases hx : id = x
    · subst hx
      simp only [List.lookup_cons, beq_self_eq_true, Option.some.injEq, List.mem_cons, Prod.mk.injEq,
        true_and]
      constructor
      · exact fun he => .inl he.symm
      · rintro (rfl | hm)
        · rfl
        · exact (UInt64.lt_irrefl _ (hlt _ hm)).elim
    · have hb : (id == x) = false := by simpa using hx
      rw [List.lookup_cons, hb, ih h.of_cons]
      simp [hx]

theorem Ordered.onChannel_self {s : SubnetSet} (h : s.Ordered) {id : SubnetId} {c : Channel}
    (hc : s.channel? id = some c) : (s.onChannel id fun _ => c) = s := by
  refine congrArg (fun channels => { s with channels := channels }) ?_
  refine (List.map_congr_left ?_).trans (List.map_id s.channels)
  rintro ⟨x, d⟩ hm
  dsimp only
  split
  case isTrue hx =>
    have hd := h.channel?_eq_some.2 (hx ▸ hm)
    rw [hc, Option.some.injEq] at hd
    rw [hd]
    rfl
  case isFalse => rfl

theorem Ordered.subscribed_ascending {s : SubnetSet} (h : s.Ordered) :
    s.subscribed.Pairwise fun a b => a.index < b.index := by
  rw [subscribed, List.pairwise_map]
  exact h.sublist List.filter_sublist

theorem Ordered.mem_subscribed {s : SubnetSet} (h : s.Ordered) {id : SubnetId} :
    id ∈ s.subscribed ↔ ∃ c, s.channel? id = some c ∧ c.confirmed = true := by
  simp only [subscribed, List.mem_map, List.mem_filter, h.channel?_eq_some]
  constructor
  · rintro ⟨⟨x, c⟩, ⟨hm, hc⟩, rfl⟩
    exact ⟨c, hm, hc⟩
  · rintro ⟨c, hm, hc⟩
    exact ⟨(id, c), ⟨hm, hc⟩, rfl⟩

/-- What an operation on a set may do to its channels. -/
structure Serves (s s' : SubnetSet) : Prop where
  namer : s'.namer = s.namer
  count : s'.count = s.count
  limit : s'.limit = s.limit
  ordered : s.Ordered → s'.Ordered
  served : s.Ordered → ∀ id, Served (s.newChannel id) (s.channel? id) (s'.channel? id)

theorem Serves.refl (s : SubnetSet) : s.Serves s :=
  ⟨rfl, rfl, rfl, id, fun _ id => Served.refl (s.newChannel id) (s.channel? id)⟩

theorem Serves.trans {s s' s'' : SubnetSet} (h : s.Serves s') (h' : s'.Serves s'') :
    s.Serves s'' := by
  refine ⟨h'.namer.trans h.namer, h'.count.trans h.count, h'.limit.trans h.limit,
    fun ho => h'.ordered (h.ordered ho), fun ho id => (h.served ho id).trans ?_⟩
  have hnew : s'.newChannel id = s.newChannel id := by
    rw [newChannel, newChannel, h.namer, h.limit]
  rw [← hnew]
  exact h'.served (h.ordered ho) id

/-- The channels do not depend on what is requested and whether the set is on. -/
theorem Serves.of_channels {s s' : SubnetSet} (namer : s'.namer = s.namer)
    (count : s'.count = s.count) (limit : s'.limit = s.limit)
    (channels : s'.channels = s.channels) : s.Serves s' := by
  refine ⟨namer, count, limit, ?_, ?_⟩
  · rw [Ordered, Ordered, channels]
    exact id
  · intro _ id
    rw [channel?, channel?, channels]
    exact Served.refl ..

theorem serves_withChannel (s : SubnetSet) (id : SubnetId) (wanted : Bool) :
    s.Serves (s.withChannel id (·.request wanted)) := by
  refine ⟨rfl, rfl, rfl, fun ho => ho.withChannel id _, ?_⟩
  intro ho x
  rw [ho.channel?_withChannel]
  by_cases hx : x = id
  · subst hx
    rw [if_pos rfl]
    exact Served.request ..
  · rw [if_neg hx]
    exact Served.refl ..

theorem serves_open (s : SubnetSet) (id : SubnetId) : s.Serves (s.withChannel id fun c => c) := by
  refine ⟨rfl, rfl, rfl, fun ho => ho.withChannel id _, ?_⟩
  intro ho x
  rw [ho.channel?_withChannel]
  by_cases hx : x = id
  · subst hx
    rw [if_pos rfl]
    cases s.channel? x with
    | none => exact .opened []
    | some c => exact .kept c []
  · rw [if_neg hx]
    exact Served.refl ..

theorem serves_onChannel (s : SubnetSet) (id : SubnetId) (wanted : Bool) :
    s.Serves (s.onChannel id (·.request wanted)) := by
  refine ⟨rfl, rfl, rfl, fun ho => ho.onChannel id _, ?_⟩
  intro _ x
  rw [channel?_onChannel]
  by_cases hx : x = id
  · rw [if_pos hx]
    exact Served.map_request ..
  · rw [if_neg hx]
    exact Served.refl ..

theorem serves_request (s : SubnetSet) (id : SubnetId) (r : Registry) :
    s.Serves (s.request id r).1 := by
  unfold request
  split
  · exact .refl s
  · have hset : s.Serves { s with requested := id.insert s.requested } :=
      .of_channels rfl rfl rfl rfl
    simp only
    split
    · exact hset.trans (serves_withChannel _ id true)
    · exact hset

theorem serves_requests (s : SubnetSet) (ids : List SubnetId) (r : Registry) :
    s.Serves (ids.foldl (fun (s, r) id => SubnetSet.request s id r) (s, r)).1 := by
  induction ids generalizing s r with
  | nil => exact .refl s
  | cons id rest ih => exact (serves_request s id r).trans (ih _ _)

theorem serves_release (s : SubnetSet) (id : SubnetId) (r : Registry) :
    s.Serves (s.release id r).1 := by
  unfold release
  split
  · have hset : s.Serves { s with requested := s.requested.filter (· ≠ id) } :=
      .of_channels rfl rfl rfl rfl
    exact hset.trans (serves_onChannel _ id false)
  · exact .refl s

theorem serves_joinAll (ids : List SubnetId) (s : SubnetSet) :
    s.Serves (ids.foldl (fun s id => s.withChannel id Channel.subscribe) s) := by
  induction ids generalizing s with
  | nil => exact .refl s
  | cons id rest ih => exact (serves_withChannel s id true).trans (ih _)

theorem serves_subscribe (s : SubnetSet) : s.Serves s.subscribe := by
  have hset : s.Serves { s with enabled := true } := .of_channels rfl rfl rfl rfl
  exact hset.trans (serves_joinAll s.requested _)

theorem serves_unsubscribe (s : SubnetSet) : s.Serves s.unsubscribe := by
  refine ⟨rfl, rfl, rfl, fun ho => ho.unsubscribe, ?_⟩
  intro _ x
  rw [channel?_unsubscribe]
  exact Served.map_request ..

theorem serves_gossip (s : SubnetSet) (a : GossipAttestation) (h : Hub) :
    s.Serves (s.gossip a h).2.1 := serves_open s (a.subnet s.count)

theorem serves_offer (s : SubnetSet) (a : GossipAttestation) (h : Hub) :
    s.Serves (s.offer a h).2.1 := by
  unfold offer
  simp only
  split
  · split
    · exact serves_gossip ..
    · exact .refl s
  · exact .refl s

end SubnetSet

end BeaconGossip
