import BeaconGossip.Channel
import BeaconGossip.Proofs.Overlay

namespace BeaconGossip

/-- No join and no leave of the topic was ever made, and nothing is live there. -/
def Overlay.Untouched (o : Overlay) (topic : String) : Prop :=
  changesIn (o.callsOn topic) = [] ∧ o.endpoint? topic = none

theorem Endpoint.switch_kind (e : Endpoint) (wanted : Bool) : (e.switch wanted).kind ≠ .publish := by
  cases wanted <;> exact Overlay.ActionKind.noConfusion

namespace Channel

/-- The call for which the newest request asks. -/
def action (c : Channel) : Overlay.Action := c.endpoint.switch c.wanted

theorem action_kind (c : Channel) : c.action.kind ≠ .publish := c.endpoint.switch_kind c.wanted

/-- The generation that the started task has read, or that the next one to start will read. -/
def reading (c : Channel) : Nat := (c.change.map (·.generation)).getD c.generation

/-- If the next turn ends a reconcile task, the generation which that task read. -/
def ended (c : Channel) (h : Hub) : Option Nat :=
  if (c.poll h).1.unfinished < c.unfinished then some c.reading else none

inductive Event where
  | request (wanted : Bool)
  | publish (payload : Bytes)
  /-- A turn of a reconcile task, with the generation that the task read if it ended. -/
  | turn (ended : Option Nat)
  /-- Anything that others do, and all replies of the overlay. -/
  | aside

inductive Step : Channel → Hub → Event → Channel → Hub → Prop where
  | request (c : Channel) (h : Hub) (wanted : Bool) :
    Step c h (.request wanted) (c.request wanted) h
  | publish (c : Channel) (h : Hub) (payload : Bytes) :
    Step c h (.publish payload) c (c.publish payload h).2
  | turn (c : Channel) (h : Hub) : Step c h (.turn (c.ended h)) (c.poll h).1 (c.poll h).2
  | aside (c : Channel) {h h' : Hub} (passes : h.overlay.Passes c.topic h'.overlay) :
    Step c h .aside c h'

/-- What a channel comes to from its beginning, on a topic that was not in use. -/
inductive Run (endpoint : Endpoint) (limit : Nat) : List Event → Channel → Hub → Prop where
  | fresh {h : Hub} (untouched : h.overlay.Untouched endpoint.topic) :
    Run endpoint limit [] (.fresh endpoint limit) h
  | step {es : List Event} {e : Event} {c c' : Channel} {h h' : Hub}
    (run : Run endpoint limit es c h) (step : Step c h e c' h') :
    Run endpoint limit (es ++ [e]) c' h'

/-- The requests among the events, the newest last. -/
def requests (es : List Event) : List Bool :=
  es.filterMap fun
    | .request wanted => some wanted
    | _ => none

theorem requests_append (es es' : List Event) : requests (es ++ es') = requests es ++ requests es' :=
  List.filterMap_append

/-- The channel after a task has dealt with a request. -/
def finished (c : Channel) (wanted : Bool) (generation : Nat) (reply : Overlay.Reply) : Channel :=
  { c with
    change := none
    settled := max c.settled generation
    confirmed := if reply = .ok then wanted else c.confirmed }

theorem finish_fst (c : Channel) (change : Change) (reply : Overlay.Reply) (r : Registry) :
    (c.finish change reply.result r).1 = c.finished change.wanted change.generation reply := by
  cases reply <;> rfl

section
variable {c c' : Channel} {h : Hub} {ch : Change} {r : Reading} {queued : Nat}

theorem read_started (started : c.change = some ch) : c.read = none := by
  simp only [read, started]

theorem read_empty (empty : c.queued = 0) : c.read = none := by
  cases hch : c.change <;> simp only [read, empty, hch]

theorem read_idle (idle : c.change = none) (next : c.queued = queued + 1) :
    c.read = some ({ c with queued := queued }, ⟨c.wanted, c.generation⟩) := by
  simp only [read, idle, next]

theorem read_eq_some (h : c.read = some (c', r)) :
    ∃ queued, c.change = none ∧ c.queued = queued + 1 ∧ c' = { c with queued := queued } ∧
      r = ⟨c.wanted, c.generation⟩ := by
  have idle : c.change = none := by
    rw [Option.eq_none_iff_forall_ne_some]
    intro ch started
    rw [read_started started] at h
    cases h
  have busy : c.queued ≠ 0 := by
    intro empty
    rw [read_empty empty] at h
    cases h
  obtain ⟨queued, next⟩ := Nat.exists_eq_succ_of_ne_zero busy
  rw [read_idle idle next, Option.some.injEq, Prod.mk.injEq] at h
  exact ⟨queued, idle, next, h.1.symm, h.2.symm⟩

theorem act_agreed (agree : r.wanted = c.confirmed) : c.act r h = (c.settle r.generation, h) :=
  if_pos agree

theorem act_call (differ : r.wanted ≠ c.confirmed) :
    c.act r h =
      ({ c with
          change := some ⟨(h.overlay.call c.topic (c.endpoint.switch r.wanted)).2, r.wanted,
            r.generation⟩ },
        { h with overlay := (h.overlay.call c.topic (c.endpoint.switch r.wanted)).1 }) :=
  if_neg differ

theorem hear_idle (idle : c.change = none) : c.hear h = (c, h) := by
  simp only [hear, idle]

theorem hear_started (started : c.change = some ch) :
    c.hear h = match h.overlay.reply? ch.ticket with
      | none => (c, h)
      | some r => (c.finished ch.wanted ch.generation r,
          { h with registry := (c.finish ch r.result h.registry).2 }) := by
  simp only [hear, started]
  cases h.overlay.reply? ch.ticket with
  | none => rfl
  | some r => simp only [finish_fst]

theorem poll_started (started : c.change = some ch) : c.poll h = c.hear h := by
  simp only [poll, read_started started]

theorem poll_idle (idle : c.change = none) (next : c.queued = queued + 1) :
    c.poll h = (({ c with queued := queued }.act ⟨c.wanted, c.generation⟩ h).1.hear
      ({ c with queued := queued }.act ⟨c.wanted, c.generation⟩ h).2) := by
  simp only [poll, read_idle idle next]

theorem poll_resting (idle : c.change = none) (empty : c.queued = 0) : c.poll h = (c, h) := by
  simp only [poll, read_empty empty, hear_idle idle]

theorem poll_agreed (idle : c.change = none) (next : c.queued = queued + 1)
    (agree : c.wanted = c.confirmed) :
    c.poll h = ({ c with queued := queued, settled := max c.settled c.generation }, h) := by
  rw [poll_idle idle next, act_agreed agree]
  exact hear_idle idle

theorem poll_call (idle : c.change = none) (next : c.queued = queued + 1)
    (differ : c.wanted ≠ c.confirmed) :
    c.poll h = match (h.overlay.made c.topic c.action).reply with
      | none => ({ c with
            queued := queued
            change := some ⟨(h.overlay.call c.topic c.action).2, c.wanted, c.generation⟩ },
          { h with overlay := (h.overlay.call c.topic c.action).1 })
      | some r => ({ c with queued := queued }.finished c.wanted c.generation r,
          { h with
            overlay := (h.overlay.call c.topic c.action).1
            registry := ({ c with queued := queued }.finish
              ⟨(h.overlay.call c.topic c.action).2, c.wanted, c.generation⟩ r.result
              h.registry).2 }) := by
  rw [poll_idle idle next, act_call differ, hear_started rfl, ← Overlay.reply?_call]
  rfl

end

/-- Everything that a turn can do. -/
inductive Polled (c : Channel) (h : Hub) : Channel × Hub → Prop where
  | resting (idle : c.change = none) (empty : c.queued = 0) : Polled c h (c, h)
  | held {ch : Change} (started : c.change = some ch) (silent : h.overlay.reply? ch.ticket = none) :
    Polled c h (c, h)
  | answered {ch : Change} {r : Overlay.Reply} (registry : Registry)
    (started : c.change = some ch) (reply : h.overlay.reply? ch.ticket = some r) :
    Polled c h (c.finished ch.wanted ch.generation r, { h with registry := registry })
  | agreed {queued : Nat} (idle : c.change = none) (next : c.queued = queued + 1)
    (agree : c.wanted = c.confirmed) :
    Polled c h ({ c with queued := queued, settled := max c.settled c.generation }, h)
  | called {queued : Nat} (idle : c.change = none) (next : c.queued = queued + 1)
    (differ : c.wanted ≠ c.confirmed) (silent : (h.overlay.made c.topic c.action).reply = none) :
    Polled c h
      ({ c with
          queued := queued
          change := some ⟨(h.overlay.call c.topic c.action).2, c.wanted, c.generation⟩ },
        { h with overlay := (h.overlay.call c.topic c.action).1 })
  | replied {queued : Nat} {r : Overlay.Reply} (registry : Registry) (idle : c.change = none)
    (next : c.queued = queued + 1) (differ : c.wanted ≠ c.confirmed)
    (reply : (h.overlay.made c.topic c.action).reply = some r) :
    Polled c h ({ c with queued := queued }.finished c.wanted c.generation r,
      { h with overlay := (h.overlay.call c.topic c.action).1, registry := registry })

theorem polled (c : Channel) (h : Hub) : Polled c h (c.poll h) := by
  cases hch : c.change with
  | some ch =>
    rw [poll_started hch, hear_started hch]
    split
    case h_1 hr => exact .held hch hr
    case h_2 r hr => exact .answered _ hch hr
  | none =>
    cases hq : c.queued with
    | zero =>
      rw [poll_resting hch hq]
      exact .resting hch hq
    | succ queued =>
      by_cases hw : c.wanted = c.confirmed
      · rw [poll_agreed hch hq hw]
        exact .agreed hch hq hw
      · rw [poll_call hch hq hw]
        split
        case h_1 hr => exact .called hch hq hw hr
        case h_2 r hr => exact .replied _ hch hq hw hr

end Channel

end BeaconGossip
