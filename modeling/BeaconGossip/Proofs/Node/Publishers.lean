import BeaconGossip.Proofs.Hub.Outcomes
import BeaconGossip.Proofs.Node.Accounts

namespace BeaconGossip

open Overlay (Action Extends Reply Ticket)

/-- What the publisher is told of the reply: just what the overlay has reported, whatever the error
is, or a shutdown if the publish task died. -/
inductive Overlay.Reply.Tells : Reply → Except GossipError Unit → Prop where
  | ok : Tells .ok (.ok ())
  | refused (e : GossipError) : Tells (.refused e) (.error e)
  | died : Tells .died (.error .shutdown)

theorem Overlay.Reply.tells_result (reply : Reply) : reply.Tells reply.result := by
  cases reply with
  | ok => exact .ok
  | refused e => exact .refused e
  | died => exact .died

/-- The same publishes and perhaps some more, and what had been reported has been reported. -/
def Ticked (outcomes outcomes' : List (Ticket × Bool)) : Prop :=
  ∀ (n : Nat) (t : Ticket) (told : Bool), outcomes[n]? = some (t, told) →
    ∃ more, outcomes'[n]? = some (t, told || more)

namespace Ticked

variable {outcomes outcomes' outcomes'' : List (Ticket × Bool)}

theorem refl (outcomes : List (Ticket × Bool)) : Ticked outcomes outcomes := by
  intro n t told h
  exact ⟨false, by rw [h, Bool.or_false]⟩

theorem of_eq (h : outcomes' = outcomes) : Ticked outcomes outcomes' := h ▸ .refl outcomes

theorem trans (h : Ticked outcomes outcomes') (h' : Ticked outcomes' outcomes'') :
    Ticked outcomes outcomes'' := by
  intro n t told hn
  obtain ⟨more, hn'⟩ := h n t told hn
  obtain ⟨more', hn''⟩ := h' n t _ hn'
  exact ⟨more || more', by rw [hn'', Bool.or_assoc]⟩

theorem append (outcomes more : List (Ticket × Bool)) : Ticked outcomes (outcomes ++ more) := by
  intro n t told hn
  have hlt := (List.getElem?_eq_some_iff.1 hn).1
  exact ⟨false, by rw [List.getElem?_append_left hlt, hn, Bool.or_false]⟩

end Ticked

namespace Hub

variable {h h' : Hub} {t : Ticket} {n : Nat}

theorem outcomes_reportAt (h : Hub) (n : Nat) :
    (h.reportAt n).outcomes =
      h.outcomes.modify n fun p => (p.1, p.2 || (h.overlay.reply? p.1).isSome) := by
  rw [List.modify_eq_set_getElem?, outcomes, outcomes, List.getElem?_map, reportAt]
  cases hp : h.publications[n]? with
  | none => rfl
  | some p =>
    have ticks := reportOne_ticks h.overlay h.registry p
    dsimp only
    rw [List.map_set, ticks]
    rfl

theorem ticked_reportAt (h : Hub) (n : Nat) : Ticked h.outcomes (h.reportAt n).outcomes := by
  intro m t told hm
  rw [outcomes_reportAt, List.getElem?_modify, hm, Option.map_eq_map, Option.map_some]
  by_cases hn : n = m
  · exact ⟨(h.overlay.reply? t).isSome, by rw [if_pos hn]⟩
  · exact ⟨false, by rw [if_neg hn, Bool.or_false]⟩

theorem ticked_report (h : Hub) : Ticked h.outcomes h.report.outcomes := by
  rw [report_eq]
  exact List.foldlRecOn (motive := fun h' => Ticked h.outcomes (outcomes h')) _ _ (.refl _)
    fun h' so_far n _ => so_far.trans (h'.ticked_reportAt n)

/-- Publishes go on: their calls stay, and so does what they have come to. -/
structure GoesOn (h h' : Hub) : Prop where
  calls : ∀ topic, Extends (h.overlay.callsOn topic) (h'.overlay.callsOn topic)
  outcomes : Ticked h.outcomes h'.outcomes

namespace GoesOn

theorem refl (h : Hub) : h.GoesOn h := ⟨fun _ => .refl _, .refl _⟩

theorem trans {h'' : Hub} (first : h.GoesOn h') (next : h'.GoesOn h'') : h.GoesOn h'' :=
  ⟨fun topic => (first.calls topic).trans (next.calls topic), first.outcomes.trans next.outcomes⟩

theorem action? (goes : h.GoesOn h') {a : Action} (ha : h.overlay.action? t = some a) :
    h'.overlay.action? t = some a := by
  obtain ⟨s, hs, rfl⟩ := Option.map_eq_some_iff.1 ha
  obtain ⟨s', hs', action, -⟩ := goes.calls t.topic t.number s hs
  rw [Overlay.action?, Overlay.call?, hs', Option.map_some, action]

theorem reply? (goes : h.GoesOn h') {reply : Reply} (hr : h.overlay.reply? t = some reply) :
    h'.overlay.reply? t = some reply := by
  obtain ⟨s, hs, replied⟩ := Option.bind_eq_some_iff.1 hr
  obtain ⟨s', hs', -, same⟩ := goes.calls t.topic t.number s hs
  obtain rfl := same (by rw [replied]; exact Option.some_ne_none reply)
  exact Option.bind_eq_some_iff.2 ⟨s', hs', replied⟩

theorem told (goes : h.GoesOn h') (told : (t, true) ∈ h.outcomes) : (t, true) ∈ h'.outcomes := by
  obtain ⟨n, hn⟩ := List.mem_iff_getElem?.1 told
  obtain ⟨more, hn'⟩ := goes.outcomes n t true hn
  exact List.mem_of_getElem? hn'

end GoesOn

theorem result?_tells {r : Except GossipError Unit} (hr : h.result? (.sent t) = some r) :
    ∃ reply, h.overlay.reply? t = some reply ∧ reply.Tells r := by
  rw [result?_sent] at hr
  split at hr
  · obtain ⟨reply, replied, rfl⟩ := Option.map_eq_some_iff.1 hr
    exact ⟨reply, replied, reply.tells_result⟩
  · cases hr

theorem result?_told {reply : Reply} (told : (t, true) ∈ h.outcomes)
    (hr : h.overlay.reply? t = some reply) :
    ∃ r, reply.Tells r ∧ h.result? (.sent t) = some r := by
  refine ⟨reply.result, reply.tells_result, ?_⟩
  rw [result?_sent, if_pos told, hr, Option.map_some]

/-- What a publisher has been told stands. -/
theorem GoesOn.result? (goes : h.GoesOn h') {p : Publishing} {r : Except GossipError Unit}
    (hr : h.result? p = some r) : h'.result? p = some r := by
  cases p with
  | refused e => exact hr
  | sent t =>
    rw [result?_sent] at hr ⊢
    split at hr
    case isTrue told =>
      obtain ⟨reply, replied, rfl⟩ := Option.map_eq_some_iff.1 hr
      rw [if_pos (goes.told told), goes.reply? replied, Option.map_some]
    case isFalse => cases hr

end Hub

namespace Node

/-- The publish task of the given number has a turn in the section. -/
def Section.wakes (n : Nat) : Section → Bool
  | .whole .report => true
  | .whole .runTasks => true
  | .report m => m = n
  | _ => false

variable {node : Node} {t : Interim}

theorem goesOn_poll (node : Node) (a : Address) : node.hub.GoesOn (node.poll a).hub := by
  cases hc : node.channel? a with
  | none =>
    rw [poll_none hc]
    exact .refl _
  | some c =>
    rw [poll_some hc]
    exact ⟨extends_poll c node.hub, .of_eq (c.outcomes_poll node.hub)⟩

theorem goesOn_sweep (node : Node) (addresses : List Address) :
    node.hub.GoesOn (node.sweep addresses).1.hub := by
  induction addresses generalizing node with
  | nil => exact .refl _
  | cons a rest ih => exact (node.goesOn_poll a).trans (ih (node.poll a))

theorem ticked_perform (node : Node) (i : Nat) (act : Act) :
    Ticked node.hub.outcomes (node.perform i act).2.hub.outcomes := by
  cases ho : node.objects[i]? with
  | none =>
    rw [perform_none ho]
    exact .refl _
  | some o =>
    rw [perform_outcomes ho, Hub.noting]
    exact .append _ _

theorem ticked_after (node : Node) (e : Event) :
    Ticked node.hub.outcomes (node.after e).hub.outcomes := by
  cases e with
  | act i act => exact node.ticked_perform i act
  | mark n =>
    rw [after_mark]
    exact .refl _
  | deliver endpoint payload => exact .of_eq (endpoint.outcomes_deliver payload node.hub)
  | turn a => exact (node.goesOn_poll a).outcomes
  | report => exact node.hub.ticked_report
  | runTasks => exact (node.goesOn_sweep node.tasks).outcomes.trans (Hub.ticked_report _)
  | _ => exact .refl _

theorem goesOn_step (t : Interim) (s : Section) : t.node.hub.GoesOn (t.step s).node.hub := by
  refine ⟨(t.advances_step s).extends, ?_⟩
  have same {hub : Hub} (publications : hub.publications = t.node.hub.publications) :
      Ticked t.node.hub.outcomes hub.outcomes :=
    .of_eq (by rw [Hub.outcomes, Hub.outcomes, publications])
  cases s with
  | whole e => exact t.node.ticked_after e
  | build i root => exact same (agrees_build ..).publications
  | handOver i => exact same (agrees_handOver ..).publications
  | join i optimistic => exact same (agrees_join ..).publications
  | report n => exact t.node.hub.ticked_reportAt n
  | receive e payload => exact same (t.takesIn_receive e payload).publications
  | conclude n v => exact same (t.takesIn_conclude n v).publications

theorem goesOn_run (t : Interim) (sections : List Section) :
    t.node.hub.GoesOn (t.run sections).node.hub :=
  List.foldlRecOn (motive := fun t' => t.node.hub.GoesOn (Interim.node t').hub) _ _ (.refl _)
    fun t' so_far s _ => so_far.trans (goesOn_step t' s)

theorem told_step {n : Nat} {ticket : Ticket} {told : Bool} {reply : Reply} {s : Section}
    (hn : t.node.hub.outcomes[n]? = some (ticket, told))
    (replied : t.node.hub.overlay.reply? ticket = some reply) (wakes : s.wakes n = true) :
    (ticket, true) ∈ (t.step s).node.hub.outcomes := by
  have reported {h : Hub} {told : Bool} (noted : (ticket, told) ∈ h.outcomes)
      (replied : h.overlay.reply? ticket = some reply) : (ticket, true) ∈ h.report.outcomes := by
    rw [Hub.outcomes_report]
    exact List.mem_map.2 ⟨_, noted, by rw [replied, Option.isSome_some, Bool.or_true]⟩
  cases s with
  | whole e =>
    cases e with
    | report => exact reported (List.mem_of_getElem? hn) replied
    | runTasks =>
      have goes := t.node.goesOn_sweep t.node.tasks
      obtain ⟨more, noted⟩ := goes.outcomes n ticket told hn
      exact reported (List.mem_of_getElem? noted) (goes.reply? replied)
    | _ => cases wakes
  | report m =>
    obtain rfl : m = n := of_decide_eq_true wakes
    refine List.mem_of_getElem? (i := m) ?_
    simp only [Interim.step, withHub]
    rw [Hub.outcomes_reportAt, List.getElem?_modify, hn, Option.map_eq_map, Option.map_some,
      if_pos rfl, replied, Option.isSome_some, Bool.or_true]
  | _ => cases wakes

/-- Whatever happens from here on, the call stays, and its publisher is told of the reply and of
nothing else: at the latest when the publish task, which has the given number, next has a turn, and
then for good. -/
structure Interim.Reports (t : Interim) (ticket : Ticket) (n : Nat) (payload : Bytes) : Prop where
  call : ∀ sections, (t.run sections).node.hub.overlay.action? ticket = some (.publish payload)
  told : ∀ sections r, (t.run sections).node.hub.result? (.sent ticket) = some r →
    ∃ reply, (t.run sections).node.hub.overlay.reply? ticket = some reply ∧ reply.Tells r
  resolves : ∀ sections s reply, (t.run sections).node.hub.overlay.reply? ticket = some reply →
    s.wakes n = true → ∃ r, reply.Tells r ∧ ∀ sections',
      (((t.run sections).step s).run sections').node.hub.result? (.sent ticket) = some r

theorem reports_of_noted {n : Nat} {ticket : Ticket} {told : Bool} {payload : Bytes}
    (hn : t.node.hub.outcomes[n]? = some (ticket, told))
    (ha : t.node.hub.overlay.action? ticket = some (.publish payload)) :
    t.Reports ticket n payload := by
  refine ⟨?_, ?_, ?_⟩
  · exact fun sections => (goesOn_run t sections).action? ha
  · exact fun sections r hr => Hub.result?_tells hr
  · intro sections s reply replied wakes
    obtain ⟨more, noted⟩ := (goesOn_run t sections).outcomes n ticket told hn
    have later := (goesOn_step (t.run sections) s).reply? replied
    obtain ⟨r, tells, result⟩ := Hub.result?_told (told_step noted replied wakes) later
    exact ⟨r, tells, fun sections' => (goesOn_run _ sections').result? result⟩

end Node

end BeaconGossip
