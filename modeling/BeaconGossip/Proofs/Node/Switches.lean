import BeaconGossip.Proofs.Hub.Publications

namespace BeaconGossip

open Overlay (Adds Names Reply Ticket)

/-- The counters once a reconcile task has heard the reply to its call. -/
def Registry.afterSwitch (r : Registry) (c : MessageClass) (reply : Reply) : Registry :=
  if reply = .ok then r else r.increment (.subscribeFailures c)

namespace Registry

variable (r : Registry) (c : MessageClass) (reply : Reply)

theorem moves_afterSwitch : r.Moves (· = .subscribeFailures) (r.afterSwitch c reply) := by
  unfold afterSwitch
  split
  · exact .refl _ r
  · exact r.moves_add (by rfl) 1

theorem value_afterSwitch (c' : MessageClass) :
    (r.afterSwitch c reply).value (.subscribeFailures c') =
      r.value (.subscribeFailures c') + if c = c' ∧ reply ≠ .ok then 1 else 0 := by
  unfold afterSwitch
  by_cases hr : reply = .ok
  · simp [hr]
  · rw [if_neg hr]
    refine (r.value_increment_class .subscribeFailures c c').trans ?_
    simp [Series.subscribeFailures, hr]

end Registry

namespace Channel

/-- The join or leave that the next turn calls, if it does. -/
def switches (c : Channel) (h : Hub) : List Ticket :=
  if c.change = none ∧ 0 < c.queued ∧ c.wanted ≠ c.confirmed then
    [(h.overlay.call c.topic c.action).2]
  else []

/-- A turn, as far as it concerns calls and their replies. -/
inductive Switched (c : Channel) (h : Hub) : List Ticket → Channel × Hub → Prop where
  | quiet {c' : Channel} (change : c'.change = c.change) : Switched c h [] (c', h)
  | heard {c' : Channel} {ch : Change} {r : Reply} (started : c.change = some ch)
    (reply : h.overlay.reply? ch.ticket = some r) (ended : c'.change = none) :
    Switched c h [] (c', { h with registry := h.registry.afterSwitch c.cls r })
  | waits {c' : Channel} {ch : Change} (idle : c.change = none)
    (silent : (h.overlay.made c.topic c.action).reply = none) (change : c'.change = some ch)
    (ticket : ch.ticket = (h.overlay.call c.topic c.action).2) :
    Switched c h [(h.overlay.call c.topic c.action).2]
      (c', { h with overlay := (h.overlay.call c.topic c.action).1 })
  | replied {c' : Channel} {r : Reply} (idle : c.change = none)
    (reply : (h.overlay.made c.topic c.action).reply = some r) (ended : c'.change = none) :
    Switched c h [(h.overlay.call c.topic c.action).2]
      (c', { h with
        overlay := (h.overlay.call c.topic c.action).1
        registry := h.registry.afterSwitch c.cls r })

theorem finish_snd (c : Channel) (ch : Change) (reply : Reply) (r : Registry) :
    (c.finish ch reply.result r).2 = r.afterSwitch c.cls reply := by
  cases reply <;> rfl

theorem switched (c : Channel) (h : Hub) : Switched c h (c.switches h) (c.poll h) := by
  cases hch : c.change with
  | some ch =>
    have none : c.switches h = [] := if_neg (by simp [hch])
    rw [none, poll_started hch, hear_started hch]
    split
    case h_1 => exact .quiet rfl
    case h_2 r hr =>
      rw [finish_snd]
      exact .heard hch hr rfl
  | none =>
    cases hq : c.queued with
    | zero =>
      have none : c.switches h = [] := if_neg (by simp [hq])
      rw [none, poll_resting hch hq]
      exact .quiet rfl
    | succ queued =>
      by_cases hw : c.wanted = c.confirmed
      · have none : c.switches h = [] := if_neg (by simp [hw])
        rw [none, poll_agreed hch hq hw]
        exact .quiet rfl
      · have one : c.switches h = [(h.overlay.call c.topic c.action).2] :=
          if_pos ⟨hch, by omega, hw⟩
        rw [one, poll_call hch hq hw]
        split
        case h_1 hr => exact .waits hch hr rfl rfl
        case h_2 r hr =>
          rw [finish_snd]
          exact .replied hch hr rfl

theorem adds_poll (c : Channel) (h : Hub) :
    Adds (· ≠ .publish) h.overlay (c.poll h).2.overlay := by
  have hs := c.switched h
  generalize c.switches h = tickets, c.poll h = p at hs
  cases hs with
  | quiet => exact .refl _ _
  | heard => exact .refl _ _
  | waits => exact Overlay.adds_call _ _ c.action_kind
  | replied => exact Overlay.adds_call _ _ c.action_kind

theorem moves_poll (c : Channel) (h : Hub) :
    h.registry.Moves (· = .subscribeFailures) (c.poll h).2.registry := by
  have hs := c.switched h
  generalize c.switches h = tickets, c.poll h = p at hs
  cases hs with
  | quiet => exact .refl _ _
  | heard => exact h.registry.moves_afterSwitch ..
  | waits => exact .refl _ _
  | replied => exact h.registry.moves_afterSwitch ..

end Channel

theorem Hub.Booked.poll {h : Hub} {log : List Entry} (booked : h.Booked log) (c : Channel) :
    (c.poll h).2.Booked log := by
  have publications : (c.poll h).2.publications = h.publications := by
    have hp := c.polled h
    generalize c.poll h = p at hp ⊢
    cases hp <;> rfl
  exact booked.carry publications (c.adds_poll h) (c.publishCalls_poll h)
    ((c.moves_poll h).mono (by rintro f rfl; rfl))

namespace Node

/-- A join or a leave, called by a channel of the class. -/
structure Switch where
  cls : MessageClass
  ticket : Ticket
  deriving DecidableEq

variable {node node' : Node} {a : Address}

/-- The call whose reply the channel waits for. -/
def held? (node : Node) (a : Address) : Option Switch :=
  (node.channel? a).bind fun c => c.change.map fun ch => ⟨c.cls, ch.ticket⟩

def addresses (node : Node) : List Address :=
  (List.range node.objects.length).flatMap fun i =>
    ((node.objects[i]?).elim [] (·.lanes)).map fun entry => ⟨i, entry.1⟩

/-- The calls whose replies have not reached their reconcile tasks. -/
def awaited (node : Node) : List Ticket := (node.addresses.filterMap node.held?).map (·.ticket)

theorem mem_addresses {c : Channel} (hc : node.channel? a = some c) : a ∈ node.addresses := by
  obtain ⟨o, ho, hm⟩ := channel?_mem hc
  have lt := (List.getElem?_eq_some_iff.1 ho).1
  refine List.mem_flatMap.2 ⟨a.object, List.mem_range.2 lt, List.mem_map.2 ⟨(a.lane, c), ?_, rfl⟩⟩
  rw [ho]
  exact hm

theorem mem_awaited {t : Ticket} :
    t ∈ node.awaited ↔ ∃ a s, node.held? a = some s ∧ s.ticket = t := by
  rw [awaited, List.mem_map]
  constructor
  · rintro ⟨s, hs, ht⟩
    obtain ⟨a, -, hs⟩ := List.mem_filterMap.1 hs
    exact ⟨a, s, hs, ht⟩
  · rintro ⟨a, s, hs, ht⟩
    obtain ⟨c, hc, -⟩ := Option.bind_eq_some_iff.1 hs
    exact ⟨s, List.mem_filterMap.2 ⟨a, mem_addresses hc, hs⟩, ht⟩

theorem held?_served (h : node.Serves node') (ordered : node.Ordered) (a : Address) :
    node'.held? a = node.held? a := by
  obtain ⟨e, limit, grown⟩ := h.grown ordered a
  rw [held?, held?]
  generalize node.channel? a = before, node'.channel? a = after at grown
  cases grown with
  | absent => rfl
  | opened requests =>
    rw [Option.bind_some, (Channel.requestAll_fields ..).1]
    rfl
  | kept c requests =>
    rw [Option.bind_some, Option.bind_some, (Channel.requestAll_fields ..).1, Channel.cls,
      Channel.requestAll_endpoint]
    rfl

/-- The joins and leaves that a turn at the address calls. -/
def switches (node : Node) (a : Address) : List Switch :=
  match node.channel? a with
  | none => []
  | some c => (c.switches node.hub).map (Switch.mk c.cls)

def sweepSwitches (node : Node) : List Address → List Switch
  | [] => []
  | a :: rest => node.switches a ++ (node.poll a).sweepSwitches rest

/-- The join or leave of the class has failed, and its reconcile task knows it. -/
def HasFailed (node : Node) (c : MessageClass) (s : Switch) : Bool :=
  decide (s.cls = c ∧ s.ticket ∉ node.awaited) &&
    (node.hub.overlay.reply? s.ticket).any (· ≠ .ok)

/-- These are all joins and leaves, each of them waited for by one reconcile task or heard of, and
the failures that have been heard of are counted. -/
structure Heard (node : Node) (switches : List Switch) : Prop where
  names : Names (· ≠ .publish) node.hub.overlay (switches.map (·.ticket))
  held : ∀ a s, node.held? a = some s → s ∈ switches
  apart : ∀ a b s s', node.held? a = some s → node.held? b = some s' → s.ticket = s'.ticket → a = b
  replied : ∀ s ∈ switches, s.ticket ∉ node.awaited → node.hub.overlay.reply? s.ticket ≠ none
  failures : ∀ c, node.hub.registry.value (.subscribeFailures c) =
    (switches.countP (node.HasFailed c) : Nat)

namespace Heard

variable {switches : List Switch} {s : Switch}

theorem mem_of_awaited (heard : node.Heard switches) {t : Ticket} (ht : t ∈ node.awaited) :
    t ∈ switches.map (·.ticket) := by
  obtain ⟨a, s, hs, rfl⟩ := mem_awaited.1 ht
  exact List.mem_map_of_mem (heard.held a s hs)

theorem eq_of_ticket (heard : node.Heard switches) {s' : Switch} (hs : s ∈ switches)
    (hs' : s' ∈ switches) (same : s.ticket = s'.ticket) : s = s' :=
  List.inj_on_of_nodup_map heard.names.nodup hs hs' same

/-- Of a call whose reply has been heard nothing changes. -/
theorem hasFailed_eq (heard : node.Heard switches) {K : Overlay.ActionKind → Prop}
    (adds : Adds K node.hub.overlay node'.hub.overlay) (hs : s ∈ switches)
    (same : s.ticket ∈ node'.awaited ↔ s.ticket ∈ node.awaited) (c : MessageClass) :
    node'.HasFailed c s = node.HasFailed c s := by
  unfold HasFailed
  by_cases hw : s.ticket ∈ node.awaited
  · simp [hw, same.2 hw]
  · rw [adds.reply?_eq (heard.replied s hs hw)]
    simp only [same]

theorem steady (heard : node.Heard switches) (held : ∀ a, node'.held? a = node.held? a)
    (adds : Adds (· = .publish) node.hub.overlay node'.hub.overlay)
    (moves : node.hub.registry.Moves (· ≠ .subscribeFailures) node'.hub.registry) :
    node'.Heard switches := by
  have awaited (t : Ticket) : t ∈ node'.awaited ↔ t ∈ node.awaited := by
    simp only [mem_awaited, held]
  refine ⟨heard.names.adds adds fun _ publish => not_not_intro publish, fun a s => ?_,
    fun a b => ?_, fun s hs hw => ?_, fun c => ?_⟩
  · rw [held]
    exact heard.held a s
  · rw [held, held]
    exact heard.apart a b
  · rw [awaited] at hw
    rw [adds.reply?_eq (heard.replied s hs hw)]
    exact heard.replied s hs hw
  · rw [moves.value _ (not_not_intro rfl), heard.failures]
    refine congrArg _ (List.countP_congr fun s hs => ?_)
    rw [heard.hasFailed_eq adds hs (awaited _)]

section Turn

variable {c : Channel}

theorem held?_poll (hc : node.channel? a = some c) (b : Address) :
    (node.poll a).held? b =
      if b = a then (c.poll node.hub).1.change.map fun ch => ⟨c.cls, ch.ticket⟩
      else node.held? b := by
  rw [held?, channel?_poll hc]
  split
  · rw [Option.bind_some, Channel.cls, Channel.poll_endpoint]
    rfl
  · rfl

theorem held?_of_channel? (hc : node.channel? a = some c) :
    node.held? a = c.change.map fun ch => ⟨c.cls, ch.ticket⟩ := by
  rw [held?, hc, Option.bind_some]

section Waiting

variable {now : Option Switch} (held : ∀ b, node'.held? b = if b = a then now else node.held? b)

include held

theorem held?_cases {b : Address} (hb : node'.held? b = some s) :
    (b = a ∧ now = some s) ∨ (b ≠ a ∧ node.held? b = some s) := by
  rw [held] at hb
  split at hb
  case isTrue here => exact .inl ⟨here, hb⟩
  case isFalse apart => exact .inr ⟨apart, hb⟩

/-- What the channel at the address neither waited nor waits for is waited for as before. -/
theorem awaited_iff {t : Ticket} (before : ∀ s, node.held? a = some s → s.ticket ≠ t)
    (after : ∀ s, now = some s → s.ticket ≠ t) : t ∈ node'.awaited ↔ t ∈ node.awaited := by
  rw [mem_awaited, mem_awaited]
  constructor
  · rintro ⟨b, s, hb, ht⟩
    rcases held?_cases held hb with ⟨-, hnow⟩ | ⟨-, hb⟩
    · exact (after s hnow ht).elim
    · exact ⟨b, s, hb, ht⟩
  · rintro ⟨b, s, hb, ht⟩
    refine ⟨b, s, ?_, ht⟩
    rw [held, if_neg]
    · exact hb
    · rintro rfl
      exact before s hb ht

end Waiting

/-- If one element of a list without repetitions comes to count, the count goes up by one. -/
theorem countP_of_one {α : Type} [DecidableEq α] {l : List α} {x : α} (nodup : l.Nodup)
    (hm : x ∈ l) {p q : α → Bool} (before : p x = false) (others : ∀ y ∈ l, y ≠ x → q y = p y) :
    l.countP q = l.countP p + if q x then 1 else 0 := by
  have perm := List.perm_cons_erase hm
  rw [perm.countP_eq, perm.countP_eq, List.countP_cons, List.countP_cons, before]
  have rest : (l.erase x).countP q = (l.erase x).countP p := by
    refine List.countP_congr fun y hy => ?_
    obtain ⟨hne, hy⟩ := nodup.mem_erase_iff.1 hy
    rw [others y hy hne]
  rw [rest]
  rfl

theorem heard_reply (heard : node.Heard switches) {r : Reply}
    (waited : node.held? a = some s) (reply : node.hub.overlay.reply? s.ticket = some r)
    (overlay : node'.hub.overlay = node.hub.overlay)
    (registry : node'.hub.registry = node.hub.registry.afterSwitch s.cls r)
    (held : ∀ b, node'.held? b = if b = a then none else node.held? b) : node'.Heard switches := by
  have hs := heard.held a s waited
  have keeps {b : Address} {s' : Switch} (hb : node'.held? b = some s') :
      b ≠ a ∧ node.held? b = some s' :=
    (held?_cases held hb).resolve_left fun h => (nomatch h.2)
  -- Of all calls, this one is no longer waited for.
  have awaited (t : Ticket) (ht : t ≠ s.ticket) : t ∈ node'.awaited ↔ t ∈ node.awaited := by
    refine awaited_iff held (fun s' hs' => ?_) fun s' none => (nomatch none)
    rw [waited, Option.some.injEq] at hs'
    exact hs' ▸ ht.symm
  have done : s.ticket ∉ node'.awaited := by
    rw [mem_awaited]
    rintro ⟨b, s', hb, ht⟩
    exact (keeps hb).1 (heard.apart b a s' s (keeps hb).2 waited ht)
  have adds := Adds.of_eq (fun _ => False) overlay
  refine ⟨overlay ▸ heard.names, fun b s' hb => heard.held b s' (keeps hb).2,
    fun b b' s' s'' hb hb' => heard.apart b b' s' s'' (keeps hb).2 (keeps hb').2,
    fun s' hs' hw => ?_, fun cls => ?_⟩
  · rw [overlay]
    by_cases ht : s'.ticket = s.ticket
    · rw [ht, reply]
      exact Option.some_ne_none r
    · exact heard.replied s' hs' (fun h => hw ((awaited _ ht).2 h))
  · have before : node.HasFailed cls s = false := by
      simp [HasFailed, mem_awaited.2 ⟨a, s, waited, rfl⟩]
    have others (s' : Switch) (hs' : s' ∈ switches) (hne : s' ≠ s) :
        node'.HasFailed cls s' = node.HasFailed cls s' :=
      heard.hasFailed_eq adds hs' (awaited _ fun ht => hne (heard.eq_of_ticket hs' hs ht)) cls
    rw [registry, Registry.value_afterSwitch, heard.failures,
      countP_of_one (List.Nodup.of_map _ heard.names.nodup) hs before others]
    by_cases counted : s.cls = cls ∧ r ≠ .ok <;> simp [HasFailed, done, overlay, reply, counted]

theorem called {topic : String} {action : Overlay.Action} (heard : node.Heard switches)
    (change : action.kind ≠ .publish) (idle : node.held? a = none)
    (overlay : node'.hub.overlay = (node.hub.overlay.call topic action).1)
    (registry : node'.hub.registry = node.hub.registry)
    (ticket : s.ticket = (node.hub.overlay.call topic action).2)
    (held : ∀ b, node'.held? b = if b = a then some s else node.held? b) :
    node'.Heard (switches ++ [s]) := by
  have fresh : s.ticket ∉ switches.map (·.ticket) :=
    ticket ▸ heard.names.not_mem_ticket topic action
  have adds : Adds (· ≠ .publish) node.hub.overlay node'.hub.overlay :=
    overlay ▸ Overlay.adds_call _ topic change
  have waits : s.ticket ∈ node'.awaited := mem_awaited.2 ⟨a, s, by rw [held, if_pos rfl], rfl⟩
  have unheard {b : Address} {s' : Switch} (hb : node.held? b = some s') : s.ticket ≠ s'.ticket :=
    fun ht => fresh (ht ▸ List.mem_map_of_mem (heard.held b s' hb))
  have awaited (s' : Switch) (hs' : s' ∈ switches) :
      s'.ticket ∈ node'.awaited ↔ s'.ticket ∈ node.awaited := by
    refine awaited_iff held (fun s'' waited => ?_) fun s'' hs'' ht => ?_
    · rw [idle] at waited
      cases waited
    · rw [Option.some.inj hs'', ht] at fresh
      exact fresh (List.mem_map_of_mem hs')
  refine ⟨?_, fun b s' hb => ?_, fun b b' s' s'' hb hb' ht => ?_, fun s' hs' hw => ?_,
    fun cls => ?_⟩
  · rw [overlay, List.map_append, List.map_singleton, ticket]
    exact heard.names.call topic change
  · rcases held?_cases held hb with ⟨-, same⟩ | ⟨-, hb⟩
    · rw [← Option.some.inj same]
      exact List.mem_append_right _ (List.mem_singleton.2 rfl)
    · exact List.mem_append_left _ (heard.held b s' hb)
  · rcases held?_cases held hb with ⟨here, same⟩ | ⟨-, hb⟩ <;>
      rcases held?_cases held hb' with ⟨here', same'⟩ | ⟨-, hb'⟩
    · rw [here, here']
    · exact (unheard hb' (by rw [← ht, Option.some.inj same])).elim
    · exact (unheard hb (by rw [ht, Option.some.inj same'])).elim
    · exact heard.apart b b' s' s'' hb hb' ht
  · rcases List.mem_append.1 hs' with hs' | hs'
    · rw [awaited s' hs'] at hw
      rw [adds.reply?_eq (heard.replied s' hs' hw)]
      exact heard.replied s' hs' hw
    · rw [List.mem_singleton.1 hs'] at hw
      exact (hw waits).elim
  · have earlier : switches.countP (node'.HasFailed cls) = switches.countP (node.HasFailed cls) :=
      List.countP_congr fun s' hs' => by rw [heard.hasFailed_eq adds hs' (awaited s' hs')]
    have later : node'.HasFailed cls s = false := by simp [HasFailed, waits]
    rw [registry, heard.failures, List.countP_append, earlier, List.countP_singleton, later]
    rfl

theorem called_replied {topic : String} {action : Overlay.Action} (heard : node.Heard switches)
    {r : Reply} (change : action.kind ≠ .publish)
    (overlay : node'.hub.overlay = (node.hub.overlay.call topic action).1)
    (reply : (node.hub.overlay.made topic action).reply = some r)
    (registry : node'.hub.registry = node.hub.registry.afterSwitch s.cls r)
    (ticket : s.ticket = (node.hub.overlay.call topic action).2)
    (held : ∀ b, node'.held? b = node.held? b) : node'.Heard (switches ++ [s]) := by
  have fresh : s.ticket ∉ switches.map (·.ticket) :=
    ticket ▸ heard.names.not_mem_ticket topic action
  have adds : Adds (· ≠ .publish) node.hub.overlay node'.hub.overlay :=
    overlay ▸ Overlay.adds_call _ topic change
  have awaited (t : Ticket) : t ∈ node'.awaited ↔ t ∈ node.awaited := by
    simp only [mem_awaited, held]
  have idle : s.ticket ∉ node'.awaited := fun h => fresh (heard.mem_of_awaited ((awaited _).1 h))
  have replied : node'.hub.overlay.reply? s.ticket = some r := by
    rw [overlay, ticket, Overlay.reply?_call, reply]
  refine ⟨?_, fun b s' hb => ?_, fun b b' => ?_, fun s' hs' hw => ?_, fun cls => ?_⟩
  · rw [overlay, List.map_append, List.map_singleton, ticket]
    exact heard.names.call topic change
  · rw [held] at hb
    exact List.mem_append_left _ (heard.held b s' hb)
  · rw [held, held]
    exact heard.apart b b'
  · rcases List.mem_append.1 hs' with hs' | hs'
    · rw [awaited] at hw
      rw [adds.reply?_eq (heard.replied s' hs' hw)]
      exact heard.replied s' hs' hw
    · rw [List.mem_singleton.1 hs', replied]
      exact Option.some_ne_none r
  · have earlier : switches.countP (node'.HasFailed cls) = switches.countP (node.HasFailed cls) :=
      List.countP_congr fun s' hs' => by rw [heard.hasFailed_eq adds hs' (awaited _)]
    rw [registry, Registry.value_afterSwitch, heard.failures, List.countP_append, earlier,
      List.countP_singleton]
    by_cases counted : s.cls = cls ∧ r ≠ .ok <;> simp [HasFailed, idle, replied, counted]

theorem poll (heard : node.Heard switches) (a : Address) :
    (node.poll a).Heard (switches ++ node.switches a) := by
  cases hc : node.channel? a with
  | none =>
    have none : node.switches a = [] := by rw [Node.switches, hc]
    rw [poll_none hc, none, List.append_nil]
    exact heard
  | some c =>
    have made : node.switches a = (c.switches node.hub).map (Switch.mk c.cls) := by
      rw [Node.switches, hc]
    have hub : (node.poll a).hub = (c.poll node.hub).2 := by rw [poll_some hc]
    have before := held?_of_channel? hc
    have after := held?_poll hc
    have switched := c.switched node.hub
    rw [made]
    generalize c.switches node.hub = tickets, c.poll node.hub = p at hub after switched
    cases switched with
    | quiet change =>
      have held (b : Address) : (node.poll a).held? b = node.held? b := by
        rw [after]
        split
        case isTrue hb => rw [change, hb, before]
        case isFalse => rfl
      rw [List.map_nil, List.append_nil]
      exact heard.steady held (hub ▸ .refl _ _) (hub ▸ .refl _ _)
    | heard started reply ended =>
      rw [started, Option.map_some] at before
      rw [List.map_nil, List.append_nil]
      refine heard.heard_reply before reply (by rw [hub]) (by rw [hub]) fun b => ?_
      rw [after, ended]
      rfl
    | waits idle silent change ticket =>
      rw [idle, Option.map_none] at before
      refine heard.called (s := ⟨c.cls, _⟩) c.action_kind before (by rw [hub]) (by rw [hub]) rfl
        fun b => ?_
      rw [after, change, Option.map_some, ticket]
    | replied idle reply ended =>
      rw [idle, Option.map_none] at before
      refine heard.called_replied (s := ⟨c.cls, _⟩) c.action_kind (by rw [hub]) reply
        (by rw [hub]) rfl fun b => ?_
      rw [after, ended]
      split
      case isTrue hb => rw [hb, before]; rfl
      case isFalse => rfl

theorem sweep (heard : node.Heard switches) (addresses : List Address) :
    (node.sweep addresses).1.Heard (switches ++ node.sweepSwitches addresses) := by
  induction addresses generalizing node switches with
  | nil =>
    rw [sweepSwitches, List.append_nil]
    exact heard
  | cons a rest ih =>
    rw [sweepSwitches, ← List.append_assoc]
    exact ih (heard.poll a)

end Turn

end Heard

end Node

end BeaconGossip
