import BeaconGossip.Proofs.Channel.Calls

namespace BeaconGossip.Channel

open Overlay

/-- What a channel and its hub come to, from whatever they are. -/
inductive Later (c : Channel) (h : Hub) : List Event → Channel → Hub → Prop where
  | now : Later c h [] c h
  | step {es : List Event} {e : Event} {c' c'' : Channel} {h' h'' : Hub}
    (later : Later c h es c' h') (step : Step c' h' e c'' h'') : Later c h (es ++ [e]) c'' h''

theorem Run.later {endpoint : Endpoint} {limit : Nat} {es es' : List Event} {c c' : Channel}
    {h h' : Hub} (run : Run endpoint limit es c h) (later : Later c h es' c' h') :
    Run endpoint limit (es ++ es') c' h' := by
  induction later with
  | now =>
    rw [List.append_nil]
    exact run
  | step _ step ih =>
    rw [← List.append_assoc]
    exact ih.step step

theorem poll_settled_le (c : Channel) (h : Hub) : c.settled ≤ (c.poll h).1.settled := by
  have hp := c.polled h
  generalize c.poll h = p at hp ⊢
  cases hp with
  | resting => exact Nat.le_refl _
  | held => exact Nat.le_refl _
  | answered => exact Nat.le_max_left ..
  | agreed => exact Nat.le_max_left ..
  | called => exact Nat.le_refl _
  | replied => exact Nat.le_max_left ..

theorem Step.settled_le {c c' : Channel} {h h' : Hub} {e : Event} (step : Step c h e c' h') :
    c.settled ≤ c'.settled := by
  cases step with
  | request => exact Nat.le_refl _
  | publish => exact Nat.le_refl _
  | turn => exact poll_settled_le c h
  | aside => exact Nat.le_refl _

theorem Later.settled_le {c c' : Channel} {h h' : Hub} {es : List Event}
    (later : Later c h es c' h') : c.settled ≤ c'.settled := by
  induction later with
  | now => exact Nat.le_refl _
  | step _ step ih => exact Nat.le_trans ih step.settled_le

theorem Step.generation_le {c c' : Channel} {h h' : Hub} {e : Event} (step : Step c h e c' h') :
    c.generation ≤ c'.generation := by
  cases step with
  | request => exact Nat.le_succ _
  | publish => exact Nat.le_refl _
  | turn => exact Nat.le_of_eq (poll_requests c h).2.symm
  | aside => exact Nat.le_refl _

theorem Later.generation_le {c c' : Channel} {h h' : Hub} {es : List Event}
    (later : Later c h es c' h') : c.generation ≤ c'.generation := by
  induction later with
  | now => exact Nat.le_refl _
  | step _ step ih => exact Nat.le_trans ih step.generation_le

theorem Sound.settled_le_reading {c : Channel} {calls : List Call} {live : Option Endpoint}
    (h : c.Sound calls live) : c.settled ≤ c.reading := by
  rcases h.phase with hi | ⟨ch, before, s, after, hw⟩
  · rw [reading, hi.rest]
    exact h.settled_le
  · rw [reading, hw.started]
    exact hw.settled_le

/-- The watermark stays, or rises to what a task has read that ends now. -/
theorem poll_settled {c : Channel} {h : Hub} (hr : c.settled ≤ c.reading) :
    (c.poll h).1.settled = c.settled ∨ c.ended h = some (c.poll h).1.settled := by
  have hp := c.polled h
  unfold ended
  generalize c.poll h = p at hp ⊢
  cases hp with
  | resting => exact .inl rfl
  | held => exact .inl rfl
  | called => exact .inl rfl
  | @answered ch r registry started reply =>
    have hg : c.reading = ch.generation := by simp [reading, started]
    rw [hg] at hr ⊢
    refine .inr ?_
    simp [unfinished, finished, started, Nat.max_eq_right hr]
  | @agreed queued idle next agree =>
    have hg : c.reading = c.generation := by simp [reading, idle]
    rw [hg] at hr ⊢
    refine .inr ?_
    simp [unfinished, idle, next, Nat.max_eq_right hr]
  | @replied queued r registry idle next differ reply =>
    have hg : c.reading = c.generation := by simp [reading, idle]
    rw [hg] at hr ⊢
    refine .inr ?_
    simp [unfinished, finished, idle, next, Nat.max_eq_right hr]

theorem Run.settled_read {endpoint : Endpoint} {limit : Nat} {es : List Event} {c : Channel}
    {h : Hub} (run : Run endpoint limit es c h) :
    c.settled = 0 ∨ Event.turn (some c.settled) ∈ es := by
  induction run with
  | fresh => exact .inl rfl
  | @step es e c c' h h' run step ih =>
    have kept : c.settled = 0 ∨ Event.turn (some c.settled) ∈ es ++ [e] :=
      ih.imp_right fun hm => List.mem_append_left _ hm
    cases step with
    | request => exact kept
    | publish => exact kept
    | turn =>
      rcases poll_settled (h := h) run.sound.settled_le_reading with he | he
      · rw [he]
        exact kept
      · rw [he]
        exact .inr (List.mem_append_right _ List.mem_cons_self)
    | aside => exact kept

theorem Sound.idle_of_finished {c : Channel} {calls : List Call} {live : Option Endpoint}
    (h : c.Sound calls live) (hf : c.unfinished = 0) : c.Idle calls ∧ c.settled = c.generation := by
  have hq : c.queued = 0 := by
    unfold unfinished at hf
    omega
  have hc : c.change = none := by
    cases hc : c.change with
    | none => rfl
    | some ch => simp [unfinished, hc] at hf
  have hi := h.idle hc
  exact ⟨hi, hi.caughtUp hq⟩

/-- A channel that has dealt with its newest request, and met with no failure, is in the wanted
state. -/
theorem Sound.agreed {c : Channel} {calls : List Call} {live : Option Endpoint}
    (h : c.Sound calls live) (hs : c.settled = c.generation)
    (accepted : ∀ s ∈ changesIn calls, ∀ r, s.reply = some r → r = .ok) :
    c.confirmed = c.wanted := by
  rcases h.phase with hi | ⟨ch, before, s, after, hw⟩
  · rcases hi.outcome hs with he | ⟨s, r, hl, _, hr, hne⟩
    · exact he
    · exact (hne (accepted s (List.mem_of_getLast? hl) r hr)).elim
  · obtain ⟨s', hm, hne⟩ := hw.retried hs
    cases hr : s'.reply with
    | none => exact (hw.answered s' hm hr).elim
    | some r =>
      have hin : s' ∈ changesIn calls := by
        rw [hw.split, changesIn_append]
        exact List.mem_append_left _ hm
      rw [hr, accepted s' hin r hr] at hne
      exact (hne rfl).elim

/-- What the watermark says after the given events, and what a wait that begins then can rely on. -/
structure Watermarked (es : List Event) (c : Channel) (h : Hub) : Prop where
  settled_le : c.settled ≤ c.generation
  rises : ∀ es' c' h', Later c h es' c' h' → c.settled ≤ c'.settled
  awaited : c.settled < c.generation → 0 < c.unfinished
  /-- Once all tasks have ended, the channel is in the wanted state unless the call that was to
  bring it about was its last one, and failed. -/
  final : c.unfinished = 0 → c.settled = c.generation ∧
    (c.confirmed = c.wanted ∨ c.LastRefused (h.overlay.callsOn c.topic))
  /-- A wait ends no later than the last task. -/
  relieved : ∀ es' c' h', Later c h es' c' h' → c'.unfinished = 0 → c.generation ≤ c'.settled
  /-- When it resolves, a task has ended that had read a request no older than the newest one at
  its beginning, if there was any. -/
  read : ∀ es' c' h', Later c h es' c' h' → 0 < c.generation → c.generation ≤ c'.settled →
    ∃ n, c.generation ≤ n ∧ Event.turn (some n) ∈ es ++ es'
  agreed : ∀ es' c' h', Later c h es' c' h' → c.generation ≤ c'.settled → requests es' = [] →
    (∀ s ∈ changesIn (h'.overlay.callsOn c'.topic), ∀ r, s.reply = some r → r = .ok) →
    c'.confirmed = c'.wanted

theorem Run.watermarked {endpoint : Endpoint} {limit : Nat} {es : List Event} {c : Channel}
    {h : Hub} (run : Run endpoint limit es c h) : Watermarked es c h := by
  have hs := run.sound
  refine ⟨hs.settled_le, fun _ _ _ later => later.settled_le, ?_, ?_, ?_, ?_, ?_⟩
  · intro hlt
    rw [Nat.pos_iff_ne_zero]
    intro hf
    have he := (hs.idle_of_finished hf).2
    omega
  · intro hf
    obtain ⟨hi, he⟩ := hs.idle_of_finished hf
    exact ⟨he, hi.outcome he⟩
  · intro es' c' h' later hf
    rw [((run.later later).sound.idle_of_finished hf).2]
    exact later.generation_le
  · intro es' c' h' later hg hw
    rcases (run.later later).settled_read with hz | hr
    · omega
    · exact ⟨c'.settled, hw, hr⟩
  · intro es' c' h' later hw hn accepted
    have run' := run.later later
    have hg : c'.generation = c.generation := by
      rw [run'.requests_eq.1, requests_append, hn, List.append_nil, run.requests_eq.1]
    have hle := run'.sound.settled_le
    exact run'.sound.agreed (by omega) accepted

/-- A wait for a join, from the request to the reply. -/
theorem watermarked_join :
    ∃ c h c' h', Run ⟨.block, "a", none⟩ 8 [.request true] c h ∧
      Later c h [.turn (some 1)] c' h' ∧ c.settled < c.generation ∧ c.generation ≤ c'.settled ∧
      c'.confirmed = true ∧ Watermarked [.request true] c h := by
  let c := (fresh ⟨.block, "a", none⟩ 8).subscribe
  have run : Run ⟨.block, "a", none⟩ 8 [.request true] c Hub.idle :=
    .step (.fresh ⟨rfl, rfl⟩) (.request _ _ true)
  exact ⟨c, Hub.idle, _, _, run, .step .now (.turn c Hub.idle), by decide, by decide, by decide,
    run.watermarked⟩

/-- A wait that begins before the first request resolves although no task has read anything. -/
theorem not_read_before_requests :
    ¬ ∀ (endpoint : Endpoint) (limit : Nat) (es es' : List Event) (c c' : Channel) (h h' : Hub),
      Run endpoint limit es c h → Later c h es' c' h' → c.generation ≤ c'.settled →
      ∃ n, c.generation ≤ n ∧ Event.turn (some n) ∈ es ++ es' := by
  intro always
  obtain ⟨n, _, hm⟩ := always ⟨.block, "a", none⟩ 8 [] [] _ _ Hub.idle Hub.idle
    (.fresh ⟨rfl, rfl⟩) .now (Nat.le_refl _)
  cases hm

end BeaconGossip.Channel
