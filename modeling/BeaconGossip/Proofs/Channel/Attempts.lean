import BeaconGossip.Proofs.Channel.Settlement
import BeaconGossip.Proofs.Overlay.Since

namespace BeaconGossip.Channel

open Overlay

/-- How far the tasks have come that were waiting at the start, when the confirmed state was the given
one, and which calls they have made. -/
inductive Attempts (confirmed : Bool) (queued : Nat) (own : List Nat) (c : Channel)
    (calls : List Call) : Prop where
  /-- There is nothing to bring about. -/
  | agreed (rest : c.change = none) (agree : c.confirmed = c.wanted) (before : confirmed = c.wanted)
    (silent : own = [])
  | failing (rest : c.change = none) (differ : c.confirmed ≠ c.wanted)
    (before : confirmed ≠ c.wanted) (count : own.length + c.queued = queued)
    (failed : own = [] ∨ FailedAt own calls)
  | waiting {ch : Change} (started : c.change = some ch) (wanted : ch.wanted = c.wanted)
    (topic : ch.ticket.topic = c.topic) (recent : ch.ticket.number ∈ own)
    (differ : c.confirmed ≠ c.wanted) (before : confirmed ≠ c.wanted)
    (count : own.length + c.queued = queued) (failed : own.length = 1 ∨ FailedAt own calls)
  | done (rest : c.change = none) (agree : c.confirmed = c.wanted) (before : confirmed ≠ c.wanted)
    (accepted : RepliedAt own calls .ok) (failed : own.length = 1 ∨ FailedAt own calls)

/-- What has become of a channel since the start, with the calls on its topic, of which those of the
given numbers are its own. -/
structure Attempted (start : Channel) (own : List Nat) (c : Channel) (calls : List Call) : Prop where
  endpoint : c.endpoint = start.endpoint
  wanted : c.wanted = start.wanted
  actions : ∀ n ∈ own, ∃ s, calls[n]? = some s ∧ s.action = start.action
  phase : Attempts start.confirmed start.queued own c calls

variable {start c : Channel} {h : Hub} {confirmed : Bool} {queued : Nat} {own : List Nat}
  {calls calls' : List Call}

theorem attempted_start (rest : start.change = none) (calls : List Call) :
    Attempted start [] start calls := by
  refine ⟨rfl, rfl, fun n hn => (List.not_mem_nil hn).elim, ?_⟩
  by_cases agree : start.confirmed = start.wanted
  · exact .agreed rest agree agree rfl
  · exact .failing rest agree agree (Nat.zero_add _) (.inl rfl)

theorem Attempts.extends (h : Attempts confirmed queued own c calls) (he : Extends calls calls') :
    Attempts confirmed queued own c calls' := by
  cases h with
  | agreed rest agree before silent => exact .agreed rest agree before silent
  | failing rest differ before count failed =>
    exact .failing rest differ before count (failed.imp_right (·.extends he))
  | waiting started wanted topic recent differ before count failed =>
    exact .waiting started wanted topic recent differ before count
      (failed.imp_right (·.extends he))
  | done rest agree before accepted failed =>
    exact .done rest agree before (accepted.extends he) (failed.imp_right (·.extends he))

theorem Attempted.extends (ha : Attempted start own c calls) (he : Extends calls calls') :
    Attempted start own c calls' := by
  refine ⟨ha.endpoint, ha.wanted, ?_, ha.phase.extends he⟩
  intro n hn
  obtain ⟨s, hs, haction⟩ := ha.actions n hn
  obtain ⟨s', hs', haction', _⟩ := he n s hs
  exact ⟨s', hs', haction'.trans haction⟩

theorem Attempts.next (h : Attempts confirmed queued own c calls) (idle : c.change = none)
    (differ : c.wanted ≠ c.confirmed) :
    confirmed ≠ c.wanted ∧ own.length + c.queued = queued ∧ (own = [] ∨ FailedAt own calls) := by
  cases h with
  | agreed _ agree => exact (differ agree.symm).elim
  | failing _ _ before count failed => exact ⟨before, count, failed⟩
  | waiting started =>
    rw [idle] at started
    cases started
  | done _ agree => exact (differ agree.symm).elim

theorem Attempts.heard {r : Reply} {wanted : Bool} (newest : wanted = c.wanted) (generation : Nat)
    (replied : RepliedAt own calls r) (differ : c.confirmed ≠ c.wanted)
    (before : confirmed ≠ c.wanted) (count : own.length + c.queued = queued)
    (failed : own.length = 1 ∨ FailedAt own calls) :
    Attempts confirmed queued own (c.finished wanted generation r) calls := by
  by_cases hr : r = .ok
  · subst hr
    exact .done rfl newest before replied failed
  · refine .failing rfl ?_ before count (.inr ⟨r, hr, replied⟩)
    simpa only [finished, if_neg hr] using differ

theorem Attempted.answered (ha : Attempted start own c (h.overlay.callsOn c.topic)) {ch : Change}
    {r : Reply} (started : c.change = some ch) (reply : h.overlay.reply? ch.ticket = some r) :
    Attempted start own (c.finished ch.wanted ch.generation r) (h.overlay.callsOn c.topic) := by
  refine ⟨ha.endpoint, ha.wanted, ha.actions, ?_⟩
  cases ha.phase with
  | agreed rest => rw [rest] at started; cases started
  | failing rest => rw [rest] at started; cases started
  | done rest => rw [rest] at started; cases started
  | waiting started' wanted topic recent differ before count failed =>
    rw [started', Option.some.injEq] at started
    subst started
    have replied := repliedAt_of_reply? recent reply
    rw [topic] at replied
    exact .heard wanted _ replied differ before count failed

/-- What is known of the channel's own calls once it has made another. -/
structure Called (start : Channel) (queued : Nat) (own : List Nat) (n : Nat) (calls : List Call) :
    Prop where
  actions : ∀ m ∈ own ++ [n], ∃ s, calls[m]? = some s ∧ s.action = start.action
  count : (own ++ [n]).length + queued = start.queued
  failed : (own ++ [n]).length = 1 ∨ FailedAt (own ++ [n]) calls

/-- The tasks read what was wanted at the start, so their calls are all for that. -/
theorem Attempted.called (ha : Attempted start own c (h.overlay.callsOn c.topic)) {queued : Nat}
    (idle : c.change = none) (next : c.queued = queued + 1) (differ : c.wanted ≠ c.confirmed) :
    Called start queued own (h.overlay.callsOn c.topic).length
      ((h.overlay.call c.topic c.action).1.callsOn c.topic) := by
  have extended := extends_call h.overlay c.topic c.topic c.action
  obtain ⟨_, count, failed⟩ := ha.phase.next idle differ
  refine ⟨?_, ?_, ?_⟩
  · intro m hm
    rcases List.mem_append.1 hm with hm | hm
    · exact (ha.extends extended).actions m hm
    · rw [List.mem_singleton] at hm
      subst hm
      refine ⟨h.overlay.made c.topic c.action, ?_, ?_⟩
      · rw [callsOn_call, if_pos rfl, List.getElem?_concat_length]
      · rw [made_action, action, action, ha.endpoint, ha.wanted]
  · rw [List.length_append, List.length_singleton]
    omega
  · rcases failed with rfl | failed
    · exact .inl rfl
    · exact .inr ((failed.extends extended).more _)

theorem Attempted.poll (ha : Attempted start own c (h.overlay.callsOn c.topic)) :
    Attempted start (own ++ newChanges c.topic h.overlay (c.poll h).2.overlay) (c.poll h).1
      ((c.poll h).2.overlay.callsOn c.topic) := by
  have hp := c.polled h
  generalize c.poll h = p at hp ⊢
  have hnone : own ++ newChanges c.topic h.overlay h.overlay = own := by
    rw [newChanges_of_passes .refl, List.append_nil]
  have hone := newChanges_call h.overlay c.topic c.action_kind
  -- Only the last two turns make a call, and each of them uses up a task.
  cases hp with
  | resting =>
    rw [hnone]
    exact ha
  | held =>
    rw [hnone]
    exact ha
  | answered registry started reply =>
    rw [hnone]
    exact ha.answered started reply
  | @agreed queued idle next agree =>
    rw [hnone]
    refine ⟨ha.endpoint, ha.wanted, ha.actions, ?_⟩
    cases ha.phase with
    | agreed rest agree' before silent => exact .agreed rest agree' before silent
    | failing rest differ => exact (differ agree.symm).elim
    | waiting started => rw [idle] at started; cases started
    | done rest agree' before accepted failed => exact .done rest agree' before accepted failed
  | @called queued idle next differ silent =>
    rw [hone]
    have hc := ha.called idle next differ
    refine ⟨ha.endpoint, ha.wanted, hc.actions, ?_⟩
    exact .waiting rfl rfl rfl (List.mem_append_right _ List.mem_cons_self) differ.symm
      (ha.phase.next idle differ).1 hc.count hc.failed
  | @replied queued r registry idle next differ reply =>
    rw [hone]
    have hc := ha.called idle next differ
    rw [← reply?_call] at reply
    have replied := repliedAt_of_reply?
      (List.mem_append_right own (List.mem_singleton_self (h.overlay.callsOn c.topic).length)) reply
    refine ⟨ha.endpoint, ha.wanted, hc.actions, ?_⟩
    exact .heard rfl _ replied differ.symm (ha.phase.next idle differ).1 hc.count hc.failed

theorem Attempted.actions_eq (ha : Attempted start own c calls) :
    (callsAt own calls).map (·.action) = .replicate own.length start.action := by
  have actions := ha.actions
  clear ha
  induction own with
  | nil => rfl
  | cons n own ih =>
    obtain ⟨s, hs, haction⟩ := actions n List.mem_cons_self
    have hrest := ih fun m hm => actions m (List.mem_cons_of_mem n hm)
    rw [callsAt_cons hs, List.map_cons, haction, hrest]
    rfl

theorem Attempted.silent (ha : Attempted start own c calls) (agree : start.confirmed = start.wanted) :
    own = [] := by
  rw [← ha.wanted] at agree
  cases ha.phase with
  | agreed _ _ _ silent => exact silent
  | failing _ _ before => exact (before agree).elim
  | waiting _ _ _ _ _ before => exact (before agree).elim
  | done _ _ before => exact (before agree).elim

theorem Attempted.accepted (ha : Attempted start own c calls) (finished : c.unfinished = 0)
    (differ : start.confirmed ≠ start.wanted) (queued : 0 < start.queued)
    (accepted : ∀ s ∈ callsAt own calls, s.reply = some .ok) : own.length = 1 := by
  have not_failed : ¬ FailedAt own calls := by
    rintro ⟨r, hne, s, hs, hr⟩
    rw [accepted s hs, Option.some.injEq] at hr
    exact hne hr.symm
  rw [← ha.wanted] at differ
  cases ha.phase with
  | agreed _ _ before => exact (differ before).elim
  | failing _ _ _ count failed =>
    have hc : c.queued = 0 := by
      unfold unfinished at finished
      omega
    rcases failed with rfl | failed
    · rw [List.length_nil] at count
      omega
    · exact (not_failed failed).elim
  | waiting started => simp [unfinished, started] at finished
  | done _ _ _ _ failed => exact failed.resolve_right not_failed

theorem Attempted.refused (ha : Attempted start own c calls) (finished : c.unfinished = 0)
    (differ : start.confirmed ≠ start.wanted)
    (refused : ∀ s ∈ callsAt own calls, s.reply ≠ some .ok) : own.length = start.queued := by
  rw [← ha.wanted] at differ
  cases ha.phase with
  | agreed _ _ before => exact (differ before).elim
  | failing _ _ _ count _ =>
    have hc : c.queued = 0 := by
      unfold unfinished at finished
      omega
    omega
  | waiting started => simp [unfinished, started] at finished
  | done _ _ _ accepted =>
    obtain ⟨s, hs, hr⟩ := accepted
    exact (refused s hs hr).elim

end BeaconGossip.Channel
