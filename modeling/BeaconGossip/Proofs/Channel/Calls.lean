import BeaconGossip.Proofs.Channel.Section

namespace BeaconGossip

namespace Overlay

theorem Aside.actions {topic : String} {o o' : Overlay} (h : Aside topic o o') :
    (changesIn (o'.callsOn topic)).map (·.action) =
      (changesIn (o.callsOn topic)).map (·.action) := by
  rcases h.seen with ⟨hc, _⟩ | ⟨p, hp, hc, _⟩ | ⟨before, s, after, r, _, hc, hc', _⟩
  · rw [hc]
  · simp [hc, hp, changesIn]
  · rw [hc, hc', changesIn_append, changesIn_append, changesIn_cons, changesIn_cons,
      Call.answered_changes]
    by_cases hs : s.changes <;> simp [hs, Call.answered]

theorem Passes.actions {topic : String} {o o' : Overlay} (h : o.Passes topic o') :
    (changesIn (o'.callsOn topic)).map (·.action) =
      (changesIn (o.callsOn topic)).map (·.action) := by
  induction h with
  | refl => rfl
  | tail _ h ih => exact h.actions.trans ih

end Overlay

namespace Channel

open Overlay

theorem Run.requests_eq {endpoint : Endpoint} {limit : Nat} {es : List Event} {c : Channel}
    {h : Hub} (run : Run endpoint limit es c h) :
    c.generation = (requests es).length ∧ c.wanted = (requests es).getLast?.getD false := by
  obtain ⟨ss, sections, same⟩ := run.sectioned
  rw [← same]
  exact sections.requests_eq

theorem Sound.single {c : Channel} {calls : List Call} {live : Option Endpoint}
    (h : c.Sound calls live) : ((changesIn calls).filter (·.reply.isNone)).length ≤ 1 := by
  have hanswered {calls : List Call} (ha : ∀ s ∈ changesIn calls, s.reply ≠ none) :
      (changesIn calls).filter (·.reply.isNone) = [] := by
    rw [List.filter_eq_nil_iff]
    intro s hs
    simpa using ha s hs
  rcases h.phase with hi | ⟨ch, before, s, after, hw⟩
  · simp [hanswered hi.answered]
  · rw [hw.split, changesIn_append, changesIn_cons, if_pos (switch_changes hw.action), hw.last,
      List.filter_append, hanswered hw.answered, List.nil_append]
    exact List.length_filter_le _ [s]

theorem Sound.awaited {c : Channel} {o : Overlay}
    (h : c.Sound (o.callsOn c.topic) (o.endpoint? c.topic)) {s : Call}
    (hs : s ∈ changesIn (o.callsOn c.topic)) (hr : s.reply = none) :
    ∃ ch, c.change = some ch ∧ o.reply? ch.ticket = none := by
  rcases h.phase with hi | ⟨ch, before, s', after, hw⟩
  · exact (hi.answered s hs hr).elim
  · refine ⟨ch, hw.started, hw.reply?_eq.trans ?_⟩
    rw [hw.split, changesIn_append, changesIn_cons, if_pos (switch_changes hw.action), hw.last,
      List.mem_append, List.mem_singleton] at hs
    rcases hs with hs | rfl
    · exact (hw.answered s hs hr).elim
    · exact hr

theorem Sound.live_of_unheard {c : Channel} {o : Overlay}
    (h : c.Sound (o.callsOn c.topic) (o.endpoint? c.topic))
    (unheard : ∀ ch, c.change = some ch → o.reply? ch.ticket = none) :
    o.endpoint? c.topic = if c.confirmed then some c.endpoint else none := by
  rw [h.live_eq]
  rcases h.phase with hi | ⟨ch, before, s, after, hw⟩
  · rw [hi.confirmed]
  · have hr := hw.reply?_eq.symm.trans (unheard ch hw.started)
    rw [hw.split, joined_split (switch_changes hw.action) hw.last, hr, hw.confirmed]
    simp

/-- The rules that a channel keeps, after the given sections, in the calls it makes on its topic. -/
structure Disciplined (ss : List Section) (m : Midway) (h : Hub) : Prop where
  /-- At most one join or leave has not been answered, -/
  single : ((changesIn (h.overlay.callsOn m.channel.topic)).filter (·.reply.isNone)).length ≤ 1
  /-- and if there is one, it is the one that the started task waits for. -/
  awaited : ∀ s ∈ changesIn (h.overlay.callsOn m.channel.topic), s.reply = none →
    ∃ ch, m.channel.change = some ch ∧ h.overlay.reply? ch.ticket = none
  /-- A join or leave is made only while no task waits, for what was the newest request when the
  task read it, and if it differs from what is confirmed. -/
  prompted : ∀ s m' h', Sectioned m h s m' h' →
    (changesIn (h'.overlay.callsOn m.channel.topic)).map (·.action) =
        (changesIn (h.overlay.callsOn m.channel.topic)).map (·.action) ∨
      ∃ wanted, m.channel.change = none ∧ Section.LastRead ss wanted ∧
        m.channel.confirmed = !wanted ∧
        (changesIn (h'.overlay.callsOn m.channel.topic)).map (·.action) =
          (changesIn (h.overlay.callsOn m.channel.topic)).map (·.action) ++
            [if wanted then .join m.channel.endpoint else .leave]
  /-- Those that succeed are joins and leaves by turns, a join first. -/
  alternating : ∀ n s, (acceptedIn (h.overlay.callsOn m.channel.topic))[n]? = some s →
    s.action = if n % 2 = 0 then .join m.channel.endpoint else .leave
  bounded : (changesIn (h.overlay.callsOn m.channel.topic)).length ≤ (Section.requests ss).length
  /-- Unless the started task has yet to hear of a reply, the confirmed state is the true one. -/
  live : (∀ ch, m.channel.change = some ch → h.overlay.reply? ch.ticket = none) →
    h.overlay.endpoint? m.channel.topic =
      if m.channel.confirmed then some m.channel.endpoint else none

theorem Midway.Sound.disposed {m : Midway} {calls : List Call} {live : Option Endpoint}
    (h : m.Sound calls live) : ∃ c : Channel, c.Sound calls live ∧ c.change = m.channel.change ∧
      c.endpoint = m.channel.endpoint ∧ c.confirmed = m.channel.confirmed ∧
      c.generation = m.channel.generation := by
  obtain ⟨c, r⟩ := m
  cases r with
  | none => exact ⟨c, h, rfl, rfl, rfl, rfl⟩
  | some r => exact ⟨c.unread, h.1, rfl, rfl, rfl, rfl⟩

theorem act_actions (c : Channel) (r : Reading) (h : Hub) :
    (changesIn ((c.act r h).2.overlay.callsOn c.topic)).map (·.action) =
        (changesIn (h.overlay.callsOn c.topic)).map (·.action) ∨
      c.confirmed = !r.wanted ∧
        (changesIn ((c.act r h).2.overlay.callsOn c.topic)).map (·.action) =
          (changesIn (h.overlay.callsOn c.topic)).map (·.action) ++
            [c.endpoint.switch r.wanted] := by
  by_cases differ : r.wanted = c.confirmed
  · rw [act_agreed differ]
    exact .inl rfl
  · have action : (h.overlay.made c.topic (c.endpoint.switch r.wanted)).action =
        c.endpoint.switch r.wanted := made_action ..
    rw [act_call differ]
    refine .inr ⟨Bool.eq_not_of_ne (Ne.symm differ), ?_⟩
    rw [callsOn_call, if_pos rfl, changesIn_append, List.map_append, changesIn_cons,
      if_pos (switch_changes action), List.map_cons, action]
    rfl

/-- A channel keeps the rules in every run, whatever the overlay replies and whenever, and whatever
comes between the reading of a request and the call. -/
theorem SectionRun.disciplined {endpoint : Endpoint} {limit : Nat} {ss : List Section} {m : Midway}
    {h : Hub} (run : SectionRun endpoint limit ss m h) : Disciplined ss m h := by
  obtain ⟨c, sound, change, endpoint_eq, confirmed, generation⟩ := run.sound.disposed
  have topic : c.topic = m.channel.topic := congrArg Endpoint.topic endpoint_eq
  have length := run.requests_eq.1
  have calls := sound.calls_le
  rw [← topic] at sound
  constructor
  · rw [← topic]
    exact sound.single
  · intro s hs held
    rw [← topic] at hs
    rw [← change]
    exact sound.awaited hs held
  · intro s m' h' next
    cases next with
    | request => exact .inl rfl
    | publish c _ _ payload => exact .inl (publish_overlay c payload h c.topic).actions
    | read => exact .inl rfl
    | act c r =>
      have started : c.Started r := run.sound.2
      rcases act_actions c r h with same | ⟨differ, added⟩
      · exact .inl same
      · exact .inr ⟨r.wanted, started.rest, run.lastRead rfl, differ, added⟩
    | hear c => exact .inl (by rw [hear_overlay])
    | aside c _ passes => exact .inl passes.actions
  · intro n s hn
    rw [← topic] at hn
    have action := sound.alternating n s hn
    rw [endpoint_eq] at action
    simpa [Endpoint.switch] using action
  · omega
  · intro unheard
    rw [← topic, ← endpoint_eq, ← confirmed]
    apply sound.live_of_unheard
    rw [change]
    exact unheard

/-- A leave is requested when the task has read that it is to join but has not called yet. The join is
held all the same, and the leave is made as soon as it is over. -/
theorem disciplined_leave_after_held_join :
    ∃ ss m h, SectionRun ⟨.block, "a", none⟩ 8 ss m h ∧ Section.requests ss = [true, false] ∧
      h.overlay.callsOn "a" =
        [⟨"a", .join ⟨.block, "a", none⟩, some .ok⟩, ⟨"a", .leave, some .ok⟩] ∧
      Disciplined ss m h := by
  let held : Hub := { Hub.idle with overlay := Overlay.idle.setRule (.hold .join none) }
  let asked := (fresh ⟨.block, "a", none⟩ 8).subscribe
  let reading : Channel := { asked with queued := 0 }
  let joining := reading.unsubscribe.act ⟨true, 1⟩ held
  let o := joining.2.overlay
  let released : Hub := { joining.2 with overlay := (o.release (.accept .join none)).2 }
  let joined := joining.1.hear released
  have hread : SectionRun ⟨.block, "a", none⟩ 8 _ ⟨reading, some ⟨true, 1⟩⟩ held :=
    .step (.step (.fresh ⟨rfl, rfl⟩) (.request _ none _ true)) (.read (c := asked) _ rfl)
  have hjoin : SectionRun ⟨.block, "a", none⟩ 8 _ ⟨joining.1, none⟩ joining.2 :=
    .step (.step hread (.request reading _ _ false)) (.act _ _ _)
  have hjoined : SectionRun ⟨.block, "a", none⟩ 8 _ ⟨joined.1, none⟩ joined.2 :=
    .step (.step hjoin (.aside _ none (passes_release o (.accept .join none) _))) (.hear _ released)
  let leaving : Channel := { joined.1 with queued := 0 }
  have hleave : SectionRun ⟨.block, "a", none⟩ 8 _ ⟨leaving, some ⟨false, 2⟩⟩ joined.2 :=
    .step hjoined (.read (c := joined.1) _ rfl)
  have run := (hleave.step (.act _ _ _)).step (.hear _ _)
  exact ⟨_, _, _, run, by decide, by decide, run.disciplined⟩

/-- While a task goes from reading a request to join to making its call, leaving may be requested: so
it is not always the newest request for which a call is made. And between the reply to a call and the
task's hearing of it, the confirmed state is not the true one. -/
theorem outdated_and_unheard_join :
    (¬ ∀ (endpoint : Endpoint) (limit : Nat) (ss : List Section) (s : Section) (m m' : Midway)
      (h h' : Hub), SectionRun endpoint limit ss m h → Sectioned m h s m' h' →
      (changesIn (h'.overlay.callsOn endpoint.topic)).map (·.action) =
          (changesIn (h.overlay.callsOn endpoint.topic)).map (·.action) ∨
        ∃ wanted, (Section.requests ss).getLast? = some wanted ∧
          (changesIn (h'.overlay.callsOn endpoint.topic)).map (·.action) =
            (changesIn (h.overlay.callsOn endpoint.topic)).map (·.action) ++
              [if wanted then .join endpoint else .leave]) ∧
      ¬ ∀ (endpoint : Endpoint) (limit : Nat) (ss : List Section) (m : Midway) (h : Hub),
        SectionRun endpoint limit ss m h →
        (∀ s ∈ changesIn (h.overlay.callsOn endpoint.topic), s.reply ≠ none) →
        h.overlay.endpoint? endpoint.topic =
          if m.channel.confirmed then some endpoint else none := by
  let asked := (fresh ⟨.block, "a", none⟩ 8).subscribe
  let reading : Channel := { asked with queued := 0 }
  have read : SectionRun ⟨.block, "a", none⟩ 8 [.request true, .read]
      ⟨reading, some ⟨true, 1⟩⟩ Hub.idle :=
    .step (.step (.fresh ⟨rfl, rfl⟩) (.request _ none _ true)) (.read (c := asked) _ rfl)
  constructor
  · intro always
    have run := read.step (.request _ _ _ false)
    rcases always _ _ _ _ _ _ _ _ run (.act _ _ _) with same | ⟨wanted, newest, added⟩
    · exact absurd same (by decide)
    · cases newest
      exact absurd added (by decide)
  · intro always
    exact absurd (always _ _ _ _ _ (read.step (.act _ _ _)) (by decide)) (by decide)

end Channel

end BeaconGossip
