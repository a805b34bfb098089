import BeaconGossip.Proofs.Channel.Calls
import BeaconGossip.Proofs.Node.Advance

namespace BeaconGossip.Node

open Overlay Channel

theorem channel?_mem {node : Node} {a : Address} {c : Channel} (hc : node.channel? a = some c) :
    ∃ o, node.objects[a.object]? = some o ∧ (a.lane, c) ∈ o.lanes := by
  obtain ⟨o, ho, hl⟩ := Option.bind_eq_some_iff.1 hc
  obtain ⟨before, after, he, _⟩ := List.lookup_eq_some_iff.1 hl
  refine ⟨o, ho, ?_⟩
  rw [he]
  exact List.mem_append_right before List.mem_cons_self

theorem of_lanes {node : Node} {P : Channel → Prop}
    (h : ∀ o ∈ node.objects, ∀ entry ∈ o.lanes, P entry.2) {a : Address} {c : Channel}
    (hc : node.channel? a = some c) : P c := by
  obtain ⟨o, ho, hm⟩ := channel?_mem hc
  exact h o (List.mem_of_getElem? ho) (a.lane, c) hm

/-- The object has no tasks left. -/
def Finished (node : Node) (i : Nat) : Prop :=
  ∀ lane d, node.channel? ⟨i, lane⟩ = some d → d.unfinished = 0

theorem forall_channel_iff {node : Node} {i : Nat} {P : Channel → Prop} :
    (∀ o ∈ node.objects[i]?, ∀ entry ∈ o.lanes, ∀ d ∈ node.channel? ⟨i, entry.1⟩, P d) ↔
      ∀ lane d, node.channel? ⟨i, lane⟩ = some d → P d := by
  constructor
  · intro h lane d hd
    obtain ⟨o, ho, hm⟩ := channel?_mem hd
    exact h o ho (lane, d) hm d hd
  · exact fun h o _ entry _ d hd => h entry.1 d hd

instance (node : Node) (i : Nat) : Decidable (node.Finished i) :=
  decidable_of_iff _ forall_channel_iff

theorem object_of_single {node : Node} (single : node.objects.length = 1) {a : Address} {c : Channel}
    (hc : node.channel? a = some c) : a.object = 0 := by
  obtain ⟨o, ho, _⟩ := channel?_mem hc
  have hlt := (List.getElem?_eq_some_iff.1 ho).1
  rw [single] at hlt
  exact Nat.lt_one_iff.1 hlt

theorem Advance.channel? {node node' : Node} (h : Advance node node') (ho : node.Ordered)
    {a : Address} {c : Channel} (hc : node.channel? a = some c) :
    ∃ c', node'.channel? a = some c' ∧ c'.endpoint = c.endpoint := by
  cases h with
  | served _ grown _ =>
    obtain ⟨e, limit, hg⟩ := grown ho a
    rw [hc] at hg
    generalize hc' : node'.channel? a = after at hg
    cases hg with
    | kept _ requests => exact ⟨_, rfl, requestAll_endpoint c requests⟩
  | turn b =>
    by_cases hb : a = b
    · subst hb
      exact ⟨_, (channel?_poll hc a).trans (if_pos rfl), poll_endpoint c node.hub⟩
    · cases hd : node.channel? b with
      | none =>
        rw [poll_none hd]
        exact ⟨c, hc, rfl⟩
      | some d => exact ⟨c, (channel?_poll hd a).trans ((if_neg hb).trans hc), rfl⟩

/-- No other channel of the node has the topic. -/
def Alone (node : Node) (a : Address) (topic : String) : Prop :=
  ∀ b c, node.channel? b = some c → c.topic = topic → b = a

def Unused (node : Node) (topic : String) : Prop :=
  ∀ a c, node.channel? a = some c → c.topic ≠ topic

theorem Alone.before {node node' : Node} (h : Advance node node') (ho : node.Ordered) {a : Address}
    {topic : String} (alone : node'.Alone a topic) : node.Alone a topic := by
  intro b c hc ht
  obtain ⟨c', hc', he⟩ := h.channel? ho hc
  exact alone b c' hc' ((congrArg Endpoint.topic he).trans ht)

theorem Unused.before {node node' : Node} (h : Advance node node') (ho : node.Ordered)
    {topic : String} (unused : node'.Unused topic) : node.Unused topic := by
  intro a c hc ht
  obtain ⟨c', hc', he⟩ := h.channel? ho hc
  exact unused a c' hc' ((congrArg Endpoint.topic he).trans ht)

theorem untouched_passes {o o' : Overlay} {topic : String} (h : o.Passes topic o')
    (untouched : o.Untouched topic) : o'.Untouched topic := by
  induction h with
  | refl => exact untouched
  | tail _ h ih =>
    have hactions := h.actions
    rw [ih.1, List.map_nil, List.map_eq_nil_iff] at hactions
    refine ⟨hactions, ?_⟩
    rcases h.seen with ⟨_, hl⟩ | ⟨_, _, _, hl⟩ | ⟨before, s, after, r, _, hc, _, hl, -⟩
    · exact hl.trans ih.2
    · exact hl.trans ih.2
    · have hnone := ih.1
      rw [hc, changesIn_append, changesIn_cons] at hnone
      have hs : s.changes = false := by
        rw [Bool.eq_false_iff]
        intro hs
        simp [hs] at hnone
      rw [hl, afterCall_of_not_changes _ ((s.answered_changes r).trans hs)]
      exact ih.2

theorem passes_poll (c : Channel) (h : Hub) {topic : String} (ht : c.topic ≠ topic) :
    h.overlay.Passes topic (c.poll h).2.overlay := by
  have hp := c.polled h
  generalize c.poll h = p at hp ⊢
  cases hp with
  | resting => exact .refl
  | held => exact .refl
  | answered => exact .refl
  | agreed => exact .refl
  | called => exact .single (.call _ _ _ fun he => (ht he).elim)
  | replied => exact .single (.call _ _ _ fun he => (ht he).elim)

theorem run_requestAll {e : Endpoint} {limit : Nat} {es : List Channel.Event} {c : Channel}
    {h : Hub} (run : Channel.Run e limit es c h) (requests : List Bool) :
    ∃ es', Channel.Run e limit es' (c.requestAll requests) h := by
  induction requests generalizing c es with
  | nil => exact ⟨es, run⟩
  | cons wanted rest ih => exact ih (run.step (.request c h wanted))

/-- What is known of the channels of a node and their topics. -/
structure Rooted (node : Node) : Prop where
  ordered : node.Ordered
  /-- Only channels join and leave topics. -/
  untouched : ∀ topic, node.Unused topic → node.hub.overlay.Untouched topic
  /-- A channel that shares its topic with no other runs as if it were alone. -/
  run : ∀ a c, node.channel? a = some c → node.Alone a c.topic →
    ∃ limit es, Channel.Run c.endpoint limit es c node.hub

theorem Rooted.served {node node' : Node} (h : node.Rooted) (ordered : node'.Ordered)
    (grown : ∀ a, Grown (node.channel? a) (node'.channel? a))
    (passes : ∀ topic, node.hub.overlay.Passes topic node'.hub.overlay) : node'.Rooted := by
  have advance : Advance node node' := .served (fun _ => ordered) (fun _ => grown) passes
  refine ⟨ordered, ?_, ?_⟩
  · intro topic unused
    exact untouched_passes (passes topic) (h.untouched topic (unused.before advance h.ordered))
  · intro a c' hc' alone
    have alone' := alone.before advance h.ordered
    obtain ⟨e, limit, hg⟩ := grown a
    rw [hc'] at hg
    generalize hc : node.channel? a = before at hg
    cases hg with
    | opened requests =>
      rw [Channel.topic, requestAll_endpoint] at alone'
      have unused : node.Unused e.topic := by
        intro b d hd ht
        rw [alone' b d hd ht, hc] at hd
        cases hd
      have hfresh : Channel.Run e limit [] (.fresh e limit) node.hub := .fresh (h.untouched _ unused)
      obtain ⟨es, run⟩ := run_requestAll hfresh requests
      rw [requestAll_endpoint]
      exact ⟨limit, _, run.step (.aside _ (passes _))⟩
    | kept c requests =>
      rw [Channel.topic, requestAll_endpoint] at alone'
      obtain ⟨limit, es, run⟩ := h.run a c hc alone'
      obtain ⟨es', run'⟩ := run_requestAll run requests
      rw [requestAll_endpoint]
      exact ⟨limit, _, run'.step (.aside _ (passes _))⟩

theorem Rooted.turn {node : Node} (h : node.Rooted) (a : Address) : (node.poll a).Rooted := by
  have advance := Advance.turn node a
  cases hd : node.channel? a with
  | none =>
    rw [poll_none hd]
    exact h
  | some d =>
    have hhub : (node.poll a).hub = (d.poll node.hub).2 := by rw [poll_some hd]
    refine ⟨h.ordered.poll a, ?_, ?_⟩
    · intro topic unused
      have unused' := unused.before advance h.ordered
      rw [hhub]
      exact untouched_passes (passes_poll d node.hub (unused' a d hd)) (h.untouched topic unused')
    · intro b c' hc' alone
      have alone' := alone.before advance h.ordered
      rw [channel?_poll hd] at hc'
      rw [hhub]
      by_cases hb : b = a
      · subst hb
        rw [if_pos rfl, Option.some.injEq] at hc'
        subst hc'
        rw [Channel.topic, poll_endpoint] at alone'
        obtain ⟨limit, es, run⟩ := h.run b d hd alone'
        rw [poll_endpoint]
        exact ⟨limit, _, run.step (.turn d node.hub)⟩
      · rw [if_neg hb] at hc'
        -- For a channel alone on its topic, the turns of all others happen aside.
        obtain ⟨limit, es, run⟩ := h.run b c' hc' alone'
        have ht : d.topic ≠ c'.topic := fun he => hb (alone' a d hd he).symm
        exact ⟨limit, _, run.step (.aside c' (passes_poll d node.hub ht))⟩

theorem Advance.rooted {node node' : Node} (h : Advance node node') (hr : node.Rooted) :
    node'.Rooted := by
  cases h with
  | served ordered grown passes => exact hr.served (ordered hr.ordered) (grown hr.ordered) passes
  | turn a => exact hr.turn a

theorem Rooted.after {node : Node} (h : node.Rooted) (e : Event) : (node.after e).Rooted := by
  have advances := advances_after node e
  generalize node.after e = node' at advances
  induction advances with
  | refl => exact h
  | tail _ advance ih => exact advance.rooted ih

theorem rooted_fresh (settings : Settings) (schedule : Schedule) :
    (fresh settings schedule).Rooted := by
  refine ⟨?_, fun topic _ => ⟨rfl, rfl⟩, ?_⟩
  · intro o ho
    cases ho
  · intro a c hc
    cases hc

theorem Rooted.run_events {node : Node} (h : node.Rooted) (es : List Event) :
    (node.run es).Rooted := by
  induction es generalizing node with
  | nil => exact h
  | cons e es ih => exact ih (h.after e)

theorem Reachable.rooted {node : Node} (h : node.Reachable) : node.Rooted := by
  obtain ⟨settings, schedule, es, rfl⟩ := h
  exact (rooted_fresh settings schedule).run_events es

end BeaconGossip.Node
