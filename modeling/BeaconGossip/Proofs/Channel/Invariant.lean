import BeaconGossip.Proofs.Channel.Run

namespace BeaconGossip

namespace Overlay

/-- Whether the topic is joined after the calls, when joins and leaves have taken turns. -/
def joined (calls : List Call) : Bool := decide ((acceptedIn calls).length % 2 = 1)

/-- The calls that succeeded are joins and leaves by turns, a join first. -/
def Alternating (e : Endpoint) (calls : List Call) : Prop :=
  ∀ n c, (acceptedIn calls)[n]? = some c → c.action = e.switch (decide (n % 2 = 0))

theorem changesIn_answered {c : Call} (hc : c.changes = false) (before after : List Call)
    (r : Reply) : changesIn (before ++ c.answered r :: after) = changesIn (before ++ c :: after) := by
  simp only [changesIn_append, changesIn_cons, Call.answered_changes, hc, Bool.false_eq_true,
    ↓reduceIte]

theorem acceptedIn_of_changesIn {calls calls' : List Call} (h : changesIn calls = changesIn calls') :
    acceptedIn calls = acceptedIn calls' := by
  rw [acceptedIn, acceptedIn, h]

theorem joined_of_changesIn {calls calls' : List Call} (h : changesIn calls = changesIn calls') :
    joined calls = joined calls' := by
  rw [joined, joined, acceptedIn_of_changesIn h]

theorem switch_changes {c : Call} {e : Endpoint} {w : Bool} (h : c.action = e.switch w) :
    c.changes = true := by
  cases w <;> simp [Call.changes, h, Endpoint.switch, Action.kind]

/-- The last join or leave counts only if it succeeded. -/
theorem acceptedIn_split {s : Call} {after : List Call} (hs : s.changes = true)
    (ha : changesIn after = []) (before : List Call) :
    acceptedIn (before ++ s :: after) =
      acceptedIn before ++ if s.reply = some .ok then [s] else [] := by
  have h : acceptedIn (s :: after) = if s.reply = some .ok then [s] else [] := by
    rw [acceptedIn, changesIn_cons, if_pos hs, ha]
    by_cases hr : s.reply = some .ok <;> simp [hr]
  rw [acceptedIn_append, h]

theorem joined_split {s : Call} {after : List Call} (hs : s.changes = true)
    (ha : changesIn after = []) (before : List Call) :
    joined (before ++ s :: after) =
      if s.reply = some .ok then !joined before else joined before := by
  rw [joined, acceptedIn_split hs ha]
  by_cases hr : s.reply = some .ok
  · simp only [hr, ↓reduceIte, List.length_append, List.length_cons, List.length_nil, joined]
    rw [← decide_not]
    congr 1
    exact propext (by omega)
  · simp [hr, joined]

theorem Alternating.split {e : Endpoint} {before after : List Call} {s : Call}
    (h : Alternating e before) (hs : s.action = e.switch (!joined before))
    (ha : changesIn after = []) : Alternating e (before ++ s :: after) := by
  intro n c hn
  rw [acceptedIn_split (switch_changes hs) ha] at hn
  by_cases hlt : n < (acceptedIn before).length
  · rw [List.getElem?_append_left hlt] at hn
    exact h n c hn
  · by_cases hr : s.reply = some .ok
    · simp only [hr, ↓reduceIte] at hn
      have hlen := (List.getElem?_eq_some_iff.1 hn).1
      simp only [List.length_append, List.length_cons, List.length_nil] at hlen
      have hn' : n = (acceptedIn before).length := by omega
      subst hn'
      rw [List.getElem?_append_right (Nat.le_refl _)] at hn
      simp only [Nat.sub_self, List.getElem?_cons_zero, Option.some.injEq] at hn
      subst hn
      rw [hs, joined, ← decide_not]
      congr 2
      exact propext (by omega)
    · simp only [if_neg hr, List.append_nil] at hn
      exact h n c hn

theorem afterCall_switch {s : Call} {e : Endpoint} {w : Bool} (h : s.action = e.switch w)
    (live : Option Endpoint) :
    afterCall live s = if s.reply = some .ok then if w then some e else none else live := by
  cases w <;> rcases hr : s.reply with _ | (_ | _ | _ | _) <;>
    simp [afterCall, h, hr, Endpoint.switch]

end Overlay

namespace Channel

open Overlay

/-- The last join or leave was made for what is wanted now, and refused. -/
def LastRefused (c : Channel) (calls : List Call) : Prop :=
  ∃ s r, (changesIn calls).getLast? = some s ∧ s.action = c.action ∧ s.reply = some r ∧ r ≠ .ok

/-- No task has started. -/
structure Idle (c : Channel) (calls : List Call) : Prop where
  rest : c.change = none
  answered : ∀ s ∈ changesIn calls, s.reply ≠ none
  confirmed : c.confirmed = joined calls
  caughtUp : c.queued = 0 → c.settled = c.generation
  outcome : c.settled = c.generation → c.confirmed = c.wanted ∨ c.LastRefused calls

/-- The started task waits for a call, which is the last join or leave. -/
structure Waiting (c : Channel) (calls : List Call) (ch : Change) (before : List Call) (s : Call)
    (after : List Call) : Prop where
  started : c.change = some ch
  split : calls = before ++ s :: after
  ticket : ch.ticket = ⟨c.topic, before.length⟩
  action : s.action = c.endpoint.switch ch.wanted
  answered : ∀ s ∈ changesIn before, s.reply ≠ none
  last : changesIn after = []
  confirmed : c.confirmed = joined before
  opposite : ch.wanted = !c.confirmed
  settled_le : c.settled ≤ ch.generation
  generation_le : ch.generation ≤ c.generation
  newest : ch.generation = c.generation → ch.wanted = c.wanted
  caughtUp : c.queued = 0 → ch.generation = c.generation
  retried : c.settled = c.generation → ∃ s ∈ changesIn before, s.reply ≠ some .ok

/-- The invariant of a channel, the calls on its topic and the endpoint that is live there. -/
structure Sound (c : Channel) (calls : List Call) (live : Option Endpoint) : Prop where
  settled_le : c.settled ≤ c.generation
  calls_le : (changesIn calls).length + c.queued ≤ c.generation
  alternating : Alternating c.endpoint calls
  live_eq : live = if joined calls then some c.endpoint else none
  phase : c.Idle calls ∨ ∃ ch before s after, c.Waiting calls ch before s after

theorem Sound.fresh {endpoint : Endpoint} {calls : List Call} (limit : Nat)
    (h : changesIn calls = []) : (fresh endpoint limit).Sound calls none := by
  have ha : acceptedIn calls = [] := by rw [acceptedIn, h]; rfl
  have hj : joined calls = false := by simp [joined, ha]
  refine ⟨Nat.le_refl _, ?_, ?_, ?_, .inl ⟨rfl, ?_, ?_, fun _ => rfl, fun _ => .inl rfl⟩⟩
  · rw [h]
    exact Nat.le_refl _
  · intro n c hn
    simp [ha] at hn
  · simp [hj]
  · simp [h]
  · rw [hj]
    rfl

theorem Sound.request {c : Channel} {calls : List Call} {live : Option Endpoint}
    (h : c.Sound calls live) (wanted : Bool) : (c.request wanted).Sound calls live := by
  have hs := h.settled_le
  have hl := h.calls_le
  have hne : c.settled ≠ (c.request wanted).generation := by simp only [Channel.request]; omega
  refine ⟨?_, ?_, h.alternating, h.live_eq, ?_⟩
  · simp only [Channel.request]
    omega
  · simp only [Channel.request]
    omega
  · rcases h.phase with hi | ⟨ch, before, s, after, hw⟩
    · exact .inl ⟨hi.rest, hi.answered, hi.confirmed, by simp [Channel.request],
        fun he => (hne he).elim⟩
    · have hg := hw.generation_le
      refine .inr ⟨ch, before, s, after, hw.started, hw.split, hw.ticket, hw.action, hw.answered,
        hw.last, hw.confirmed, hw.opposite, hw.settled_le, ?_, ?_, by simp [Channel.request],
        fun he => (hne he).elim⟩
      · simp only [Channel.request]
        omega
      · simp only [Channel.request]
        omega

theorem Idle.congr {c : Channel} {calls calls' : List Call} (h : c.Idle calls)
    (same : changesIn calls' = changesIn calls) : c.Idle calls' := by
  constructor
  · exact h.rest
  · rw [same]
    exact h.answered
  · rw [joined_of_changesIn same]
    exact h.confirmed
  · exact h.caughtUp
  · rw [LastRefused, same]
    exact h.outcome

/-- As long as the joins and leaves are the same, only the place of the one that a task waits for has
to be found again. -/
theorem Sound.congr {c : Channel} {calls calls' : List Call} {live : Option Endpoint}
    (h : c.Sound calls live) (same : changesIn calls' = changesIn calls)
    (waiting : ∀ ch before s after, c.Waiting calls ch before s after →
      ∃ before' after', c.Waiting calls' ch before' s after') : c.Sound calls' live := by
  constructor
  · exact h.settled_le
  · rw [same]
    exact h.calls_le
  · rw [Alternating, acceptedIn_of_changesIn same]
    exact h.alternating
  · rw [joined_of_changesIn same]
    exact h.live_eq
  · rcases h.phase with idle | ⟨ch, before, s, after, hw⟩
    · exact .inl (idle.congr same)
    · obtain ⟨before', after', hw'⟩ := waiting ch before s after hw
      exact .inr ⟨ch, before', s, after', hw'⟩

theorem Sound.published {c : Channel} {calls : List Call} {live : Option Endpoint}
    (h : c.Sound calls live) {p : Call} (hp : p.changes = false) :
    c.Sound (calls ++ [p]) live := by
  have none : changesIn [p] = [] := by simp [changesIn, hp]
  apply h.congr
  · rw [changesIn_append, none, List.append_nil]
  · intro ch before s after hw
    refine ⟨before, after ++ [p], { hw with split := ?_, last := ?_ }⟩
    · rw [hw.split, List.append_assoc, List.cons_append]
    · rw [changesIn_append, hw.last, none, List.append_nil]

/-- Two ways to single out a call: it is the same one, or the other stands before or after it. -/
theorem split_cases {before after b a : List Call} {s c : Call}
    (h : before ++ s :: after = b ++ c :: a) :
    (before = b ∧ s = c ∧ after = a) ∨
      (∃ m, b = before ++ s :: m ∧ after = m ++ c :: a) ∨
      ∃ m, before = b ++ c :: m ∧ a = m ++ s :: after := by
  rcases List.append_eq_append_iff.1 h with ⟨m, hb, hs⟩ | ⟨m, hb, hc⟩
  · cases m with
    | nil =>
      simp only [List.nil_append, List.cons.injEq] at hs
      exact .inl ⟨by simp [hb], hs.1, hs.2⟩
    | cons x m =>
      simp only [List.cons_append, List.cons.injEq] at hs
      exact .inr (.inl ⟨m, by rw [hb, hs.1], hs.2⟩)
  · cases m with
    | nil =>
      simp only [List.nil_append, List.cons.injEq] at hc
      exact .inl ⟨by simp [hb], hc.1.symm, hc.2.symm⟩
    | cons x m =>
      simp only [List.cons_append, List.cons.injEq] at hc
      exact .inr (.inr ⟨m, by rw [hb, hc.1], hc.2⟩)

theorem not_mem_changesIn_of_held {calls before after : List Call} {c : Call}
    (h : ∀ s ∈ changesIn calls, s.reply ≠ none) (hc : c.reply = none)
    (hs : calls = before ++ c :: after) : c.changes = false := by
  rw [Bool.eq_false_iff]
  intro ht
  refine h c ?_ hc
  rw [hs, changesIn_append, changesIn_cons, if_pos ht]
  exact List.mem_append_right _ List.mem_cons_self

/-- Only the started task's call can be a join or leave that is answered now. -/
theorem Waiting.eq_of_held {c : Channel} {calls before after b a : List Call} {ch : Change}
    {s held : Call} (h : c.Waiting calls ch before s after) (hr : held.reply = none)
    (hc : held.changes = true) (hs : calls = b ++ held :: a) :
    before = b ∧ s = held ∧ after = a := by
  have he := h.split.symm.trans hs
  rcases split_cases he with he | ⟨m, _, hm⟩ | ⟨m, hm, _⟩
  · exact he
  · have hl := h.last
    rw [hm, changesIn_append, changesIn_cons, if_pos hc] at hl
    simp at hl
  · have hf := not_mem_changesIn_of_held h.answered hr hm
    rw [hc] at hf
    cases hf

theorem Waiting.publish_answered {c : Channel} {calls before after b a : List Call} {ch : Change}
    {s p : Call} (h : c.Waiting calls ch before s after) (hp : p.changes = false)
    (hs : calls = b ++ p :: a) (r : Reply) :
    ∃ before' after', c.Waiting (b ++ p.answered r :: a) ch before' s after' := by
  have he := h.split.symm.trans hs
  rcases split_cases he with ⟨_, hsp, _⟩ | ⟨m, hb, hm⟩ | ⟨m, hm, ha⟩
  · have hc := switch_changes h.action
    rw [hsp, hp] at hc
    cases hc
  · refine ⟨before, m ++ p.answered r :: a, { h with split := ?_, last := ?_ }⟩
    · rw [hb]
      simp
    · rw [changesIn_answered hp, ← hm]
      exact h.last
  · have hc := changesIn_answered hp b m r
    rw [← hm] at hc
    refine ⟨b ++ p.answered r :: m, after,
      { h with split := ?_, ticket := ?_, answered := ?_, confirmed := ?_, retried := ?_ }⟩
    · rw [ha]
      simp
    · rw [h.ticket, hm]
      simp
    · rw [hc]
      exact h.answered
    · rw [h.confirmed, joined_of_changesIn hc]
    · rw [hc]
      exact h.retried

theorem Sound.publish_answered {c : Channel} {b a : List Call} {p : Call} {live : Option Endpoint}
    (h : c.Sound (b ++ p :: a) live) (hp : p.changes = false) (r : Reply) :
    c.Sound (b ++ p.answered r :: a) live := by
  apply h.congr (changesIn_answered hp b a r)
  intro ch before s after hw
  exact hw.publish_answered hp rfl r

theorem Sound.change_answered {c : Channel} {b a : List Call} {held : Call}
    {live : Option Endpoint} (h : c.Sound (b ++ held :: a) live) (hr : held.reply = none)
    (hc : held.changes = true) (r : Reply) :
    c.Sound (b ++ held.answered r :: a) (afterCall live (held.answered r)) := by
  rcases h.phase with hi | ⟨ch, before, s, after, hw⟩
  · rw [not_mem_changesIn_of_held hi.answered hr rfl] at hc
    cases hc
  · obtain ⟨rfl, rfl, rfl⟩ := hw.eq_of_held hr hc rfl
    have action : (s.answered r).action = c.endpoint.switch (!joined before) := by
      rw [← hw.confirmed, ← hw.opposite]
      exact hw.action
    have joined_before := joined_split (s := s) hc hw.last before
    have joined_after := joined_split (s := s.answered r) hc hw.last before
    have alternating : Alternating c.endpoint before := by
      have ha := h.alternating
      rw [Alternating, acceptedIn_split hc hw.last] at ha
      simp only [hr, reduceCtorEq, ↓reduceIte, List.append_nil] at ha
      exact ha
    constructor
    · exact h.settled_le
    · have hl := h.calls_le
      simp only [changesIn_append, List.length_append, changesIn_cons, Call.answered_changes] at hl ⊢
      simpa only [hc, ↓reduceIte, List.length_cons] using hl
    · exact alternating.split action hw.last
    · rw [afterCall_switch action, joined_after, h.live_eq, joined_before]
      by_cases hok : r = .ok <;> simp [Call.answered, hok, hr]
    · exact .inr ⟨ch, before, s.answered r, after, { hw with split := rfl }⟩

theorem Sound.answered {c : Channel} {b a : List Call} {held : Call} {live : Option Endpoint}
    (h : c.Sound (b ++ held :: a) live) (hr : held.reply = none) (r : Reply) :
    c.Sound (b ++ held.answered r :: a) (afterCall live (held.answered r)) := by
  cases hc : held.changes with
  | false =>
    rw [afterCall_of_not_changes live ((held.answered_changes r).trans hc)]
    exact h.publish_answered hc r
  | true => exact h.change_answered hr hc r

theorem Waiting.reply?_eq {c : Channel} {o : Overlay} {ch : Change} {before after : List Call}
    {s : Call} (h : c.Waiting (o.callsOn c.topic) ch before s after) :
    o.reply? ch.ticket = s.reply := by
  rw [reply?, h.ticket, h.split, List.getElem?_append_right (Nat.le_refl _)]
  simp

theorem Idle.finished {c : Channel} {before after : List Call} {s : Call} {wanted : Bool}
    {generation : Nat} {r : Reply} (hr : s.reply = some r)
    (action : s.action = c.endpoint.switch wanted) (answered : ∀ s ∈ changesIn before, s.reply ≠ none)
    (last : changesIn after = []) (confirmed : c.confirmed = joined before)
    (opposite : wanted = !c.confirmed) (settled_le : c.settled ≤ generation)
    (newest : generation = c.generation → wanted = c.wanted)
    (caughtUp : c.queued = 0 → generation = c.generation) :
    (c.finished wanted generation r).Idle (before ++ s :: after) := by
  have hc := switch_changes action
  have hin : changesIn (before ++ s :: after) = changesIn before ++ [s] := by
    rw [changesIn_append, changesIn_cons, if_pos hc, last]
  refine ⟨rfl, ?_, ?_, ?_, ?_⟩
  · intro x hx
    rw [hin, List.mem_append, List.mem_singleton] at hx
    rcases hx with hx | rfl
    · exact answered x hx
    · simp [hr]
  · rw [joined_split hc last, ← confirmed, hr]
    by_cases hok : r = .ok <;> simp [Channel.finished, hok, opposite]
  · intro hq
    have hg := caughtUp hq
    simp only [Channel.finished]
    omega
  · intro he
    have hg : generation = c.generation := by
      simp only [Channel.finished] at he
      omega
    by_cases hok : r = .ok
    · exact .inl (by simp [Channel.finished, hok, newest hg])
    · refine .inr ⟨s, r, ?_, ?_, hr, hok⟩
      · rw [hin, List.getLast?_concat]
      · rw [action, newest hg]
        rfl

theorem Sound.idle {c : Channel} {calls : List Call} {live : Option Endpoint}
    (h : c.Sound calls live) (rest : c.change = none) : c.Idle calls := by
  rcases h.phase with hi | ⟨ch, before, s, after, hw⟩
  · exact hi
  · rw [hw.started] at rest
    cases rest

theorem Sound.waiting {c : Channel} {calls : List Call} {live : Option Endpoint} {ch : Change}
    (h : c.Sound calls live) (started : c.change = some ch) :
    ∃ before s after, c.Waiting calls ch before s after := by
  rcases h.phase with hi | ⟨ch', before, s, after, hw⟩
  · rw [hi.rest] at started
    cases started
  · rw [hw.started, Option.some.injEq] at started
    subst started
    exact ⟨before, s, after, hw⟩

theorem live_call {e : Endpoint} {calls : List Call} {s : Call} {wanted : Bool}
    (action : s.action = e.switch wanted) (opposite : wanted = !joined calls) :
    afterCall (if joined calls then some e else none) s =
      if joined (calls ++ [s]) then some e else none := by
  rw [afterCall_switch action, joined_split (switch_changes action) rfl, opposite]
  by_cases hr : s.reply = some .ok <;> simp [hr]

/-- A task that finds the confirmed state to be the other one makes the next call in turn. -/
theorem Sound.call {c : Channel} {o : Overlay} {wanted : Bool}
    (hs : c.Sound (o.callsOn c.topic) (o.endpoint? c.topic)) (idle : c.change = none)
    (differ : wanted ≠ c.confirmed) :
    (changesIn (o.callsOn c.topic ++ [o.made c.topic (c.endpoint.switch wanted)])).length =
        (changesIn (o.callsOn c.topic)).length + 1 ∧
      Alternating c.endpoint
        (o.callsOn c.topic ++ [o.made c.topic (c.endpoint.switch wanted)]) ∧
      afterCall (o.endpoint? c.topic) (o.made c.topic (c.endpoint.switch wanted)) =
        if joined (o.callsOn c.topic ++ [o.made c.topic (c.endpoint.switch wanted)]) then
          some c.endpoint
        else none := by
  have action : (o.made c.topic (c.endpoint.switch wanted)).action = c.endpoint.switch wanted :=
    made_action ..
  have opposite : wanted = !joined (o.callsOn c.topic) := by
    rw [← (hs.idle idle).confirmed]
    exact Bool.eq_not_of_ne differ
  refine ⟨?_, hs.alternating.split (action.trans (congrArg _ opposite)) rfl, ?_⟩
  · rw [changesIn_append, changesIn_cons, if_pos (switch_changes action), List.length_append]
    rfl
  · rw [hs.live_eq]
    exact live_call action opposite

/-- A task has read a request and is yet to act on it; other requests may have come since. -/
structure Started (c : Channel) (r : Reading) : Prop where
  rest : c.change = none
  settled_le : c.settled ≤ r.generation
  generation_le : r.generation ≤ c.generation
  newest : r.generation = c.generation → r.wanted = c.wanted
  caughtUp : c.queued = 0 → r.generation = c.generation

/-- The channel as it would be if the task that has read a request had not started. -/
def unread (c : Channel) : Channel := { c with queued := c.queued + 1 }

theorem Sound.read {c c' : Channel} {r : Reading} {calls : List Call} {live : Option Endpoint}
    (hs : c.Sound calls live) (h : c.read = some (c', r)) :
    c'.unread.Sound calls live ∧ c'.Started r := by
  obtain ⟨queued, idle, next, rfl, rfl⟩ := read_eq_some h
  have same : ({ c with queued := queued } : Channel).unread = c := by rw [unread, ← next]
  constructor
  · rw [same]
    exact hs
  · exact ⟨idle, hs.settled_le, Nat.le_refl _, fun _ => rfl, fun _ => rfl⟩

theorem Sound.ended {c : Channel} {r : Reading} {calls : List Call} {live : Option Endpoint}
    (hs : c.unread.Sound calls live) (started : c.Started r) (agreed : r.wanted = c.confirmed) :
    (c.settle r.generation).Sound calls live := by
  have idle := hs.idle started.rest
  have hsl : c.settled ≤ c.generation := hs.settled_le
  have hcl : (changesIn calls).length + (c.queued + 1) ≤ c.generation := hs.calls_le
  have hrg := started.generation_le
  constructor
  · simp only [settle]
    omega
  · simp only [settle]
    omega
  · exact hs.alternating
  · exact hs.live_eq
  · left
    constructor
    · exact started.rest
    · exact idle.answered
    · exact idle.confirmed
    · intro empty
      have newest := started.caughtUp empty
      simp only [settle]
      omega
    · intro he
      have newest : r.generation = c.generation := by
        have hsr := started.settled_le
        simp only [settle] at he
        omega
      exact .inl (agreed.symm.trans (started.newest newest))

/-- A task acts on a request that has been dealt with only if the call before failed. -/
theorem Started.retried {c : Channel} {r : Reading} {calls : List Call} (started : c.Started r)
    (idle : c.unread.Idle calls) (differ : r.wanted ≠ c.confirmed)
    (dealt : c.settled = c.generation) : ∃ s ∈ changesIn calls, s.reply ≠ some .ok := by
  have newest : r.generation = c.generation := by
    have hsr := started.settled_le
    have hrg := started.generation_le
    omega
  rcases idle.outcome dealt with agreed | ⟨s, reply, last, -, replied, refused⟩
  · exact (differ ((started.newest newest).trans agreed.symm)).elim
  · refine ⟨s, List.mem_of_getLast? last, ?_⟩
    rw [replied]
    exact mt Option.some.inj refused

theorem Sound.act {c : Channel} {r : Reading} {h : Hub}
    (hs : c.unread.Sound (h.overlay.callsOn c.topic) (h.overlay.endpoint? c.topic))
    (started : c.Started r) :
    (c.act r h).1.Sound ((c.act r h).2.overlay.callsOn c.topic)
      ((c.act r h).2.overlay.endpoint? c.topic) := by
  by_cases differ : r.wanted = c.confirmed
  · rw [act_agreed differ]
    exact hs.ended started differ
  · have idle := hs.idle started.rest
    obtain ⟨length, alternating, live_eq⟩ := Sound.call (c := c.unread) hs started.rest differ
    rw [act_call differ]
    simp only [callsOn_call, endpoint?_call, ↓reduceIte]
    constructor
    · exact hs.settled_le
    · have hcl : (changesIn (h.overlay.callsOn c.topic)).length + (c.queued + 1) ≤ c.generation :=
        hs.calls_le
      have added : (changesIn (h.overlay.callsOn c.topic ++
          [h.overlay.made c.topic (c.endpoint.switch r.wanted)])).length =
            (changesIn (h.overlay.callsOn c.topic)).length + 1 := length
      simp only [added]
      omega
    · exact alternating
    · exact live_eq
    · right
      exact ⟨_, h.overlay.callsOn c.topic, h.overlay.made c.topic (c.endpoint.switch r.wanted), [],
        rfl, rfl, call_ticket _ _ (c.endpoint.switch r.wanted), made_action .., idle.answered, rfl,
        idle.confirmed, Bool.eq_not_of_ne differ, started.settled_le, started.generation_le,
        started.newest, started.caughtUp, started.retried idle differ⟩

theorem Sound.hear {c : Channel} {h : Hub}
    (hs : c.Sound (h.overlay.callsOn c.topic) (h.overlay.endpoint? c.topic)) :
    (c.hear h).1.Sound ((c.hear h).2.overlay.callsOn c.topic)
      ((c.hear h).2.overlay.endpoint? c.topic) := by
  have hsl := hs.settled_le
  have hcl := hs.calls_le
  cases hch : c.change with
  | none =>
    rw [hear_idle hch]
    exact hs
  | some ch =>
    rw [hear_started hch]
    split
    case h_1 => exact hs
    case h_2 r reply =>
      obtain ⟨before, s, after, hw⟩ := hs.waiting hch
      have hg := hw.generation_le
      have hr : s.reply = some r := hw.reply?_eq.symm.trans reply
      refine ⟨?_, hcl, hs.alternating, hs.live_eq, .inl ?_⟩
      · simp only [Channel.finished]
        omega
      · simp only
        rw [hw.split]
        exact .finished hr hw.action hw.answered hw.last hw.confirmed hw.opposite hw.settled_le
          hw.newest hw.caughtUp

theorem act_endpoint (c : Channel) (r : Reading) (h : Hub) : (c.act r h).1.endpoint = c.endpoint := by
  unfold act
  split <;> rfl

theorem hear_endpoint (c : Channel) (h : Hub) : (c.hear h).1.endpoint = c.endpoint := by
  cases hch : c.change with
  | none => rw [hear_idle hch]
  | some ch =>
    rw [hear_started hch]
    split <;> rfl

theorem Sound.poll {c : Channel} {h : Hub}
    (hs : c.Sound (h.overlay.callsOn c.topic) (h.overlay.endpoint? c.topic)) :
    (c.poll h).1.Sound ((c.poll h).2.overlay.callsOn c.topic)
      ((c.poll h).2.overlay.endpoint? c.topic) := by
  unfold Channel.poll
  split
  case h_1 => exact hs.hear
  case h_2 c' r hr =>
    obtain ⟨unread, started⟩ := hs.read hr
    obtain ⟨queued, -, -, rfl, -⟩ := read_eq_some hr
    have acted := Sound.act unread started
    have topic : ({ c with queued := queued }.act r h).1.topic = c.topic :=
      congrArg Endpoint.topic (act_endpoint ..)
    have heard := Sound.hear (c := ({ c with queued := queued }.act r h).1)
      (h := ({ c with queued := queued }.act r h).2) (topic ▸ acted)
    rw [topic] at heard
    exact heard

theorem Sound.aside {c : Channel} {o o' : Overlay}
    (hs : c.Sound (o.callsOn c.topic) (o.endpoint? c.topic)) (h : o.Passes c.topic o') :
    c.Sound (o'.callsOn c.topic) (o'.endpoint? c.topic) := by
  induction h with
  | refl => exact hs
  | tail _ h ih =>
    rcases h.seen with ⟨hc, hl⟩ | ⟨p, hp, hc, hl⟩ | ⟨before, s, after, r, hr, hc, hc', hl, -⟩
    · rw [hc, hl]
      exact ih
    · rw [hc, hl]
      exact ih.published hp
    · rw [hc', hl]
      rw [hc] at ih
      exact ih.answered hr r

theorem poll_endpoint (c : Channel) (h : Hub) : (c.poll h).1.endpoint = c.endpoint := by
  have hp := c.polled h
  generalize c.poll h = p at hp ⊢
  cases hp <;> rfl

theorem poll_requests (c : Channel) (h : Hub) :
    (c.poll h).1.wanted = c.wanted ∧ (c.poll h).1.generation = c.generation := by
  have hp := c.polled h
  generalize c.poll h = p at hp ⊢
  cases hp <;> exact ⟨rfl, rfl⟩

theorem poll_limit (c : Channel) (h : Hub) : (c.poll h).1.limit = c.limit := by
  have hp := c.polled h
  generalize c.poll h = p at hp ⊢
  cases hp <;> rfl

theorem Step.endpoint_eq {c c' : Channel} {h h' : Hub} {e : Event} (step : Step c h e c' h') :
    c'.endpoint = c.endpoint := by
  cases step with
  | request => rfl
  | publish => rfl
  | turn => exact poll_endpoint c h
  | aside => rfl

theorem publish_overlay (c : Channel) (payload : Bytes) (h : Hub) (topic : String) :
    h.overlay.Passes topic (c.publish payload h).2.overlay := by
  unfold publish
  split
  · exact .refl
  · exact passes_publish ..

theorem Step.sound {c c' : Channel} {h h' : Hub} {e : Event} (step : Step c h e c' h')
    (hs : c.Sound (h.overlay.callsOn c.topic) (h.overlay.endpoint? c.topic)) :
    c'.Sound (h'.overlay.callsOn c'.topic) (h'.overlay.endpoint? c'.topic) := by
  have ht : c'.topic = c.topic := congrArg Endpoint.topic step.endpoint_eq
  rw [ht]
  cases step with
  | request wanted => exact hs.request wanted
  | publish payload => exact hs.aside (publish_overlay c payload h c.topic)
  | turn => exact hs.poll
  | aside passes => exact hs.aside passes

theorem Run.sound {endpoint : Endpoint} {limit : Nat} {es : List Event} {c : Channel} {h : Hub}
    (run : Run endpoint limit es c h) :
    c.Sound (h.overlay.callsOn c.topic) (h.overlay.endpoint? c.topic) := by
  induction run with
  | @fresh h untouched =>
    have hs : (Channel.fresh endpoint limit).Sound (h.overlay.callsOn endpoint.topic) none :=
      Sound.fresh limit untouched.1
    rw [← untouched.2] at hs
    exact hs
  | step _ step ih => exact step.sound ih

end Channel

end BeaconGossip
