import BeaconGossip.Proofs.Channel.Settlement
import BeaconGossip.Proofs.Overlay.Since

namespace BeaconGossip.Channel

open Overlay

/-- The channel has been requested something since the first `k` calls were made on its topic, or there
has been nothing to put right. -/
structure Renewed (k : Nat) (c : Channel) (calls : List Call) : Prop where
  le : k ≤ calls.length
  /-- A task that deals with the newest request waits for one of the later calls. -/
  recent : ∀ ch, c.change = some ch → ch.generation = c.generation →
    ChangeSince k calls ch.ticket.number
  outcome : c.change = none → c.settled = c.generation →
    c.confirmed = c.wanted ∨ FailedSince k calls

variable {k : Nat} {c c' : Channel} {h h' : Hub}

/-- No task can have dealt with a request that has just been made. -/
theorem Sound.renewed_request {calls : List Call} {live : Option Endpoint} (hs : c.Sound calls live)
    (le : k ≤ calls.length) (wanted : Bool) : (c.request wanted).Renewed k calls := by
  have hg : (c.request wanted).generation = c.generation + 1 := rfl
  have hle := hs.settled_le
  refine ⟨le, ?_, ?_⟩
  · intro ch hch he
    obtain ⟨before, s, after, hw⟩ := hs.waiting hch
    have hge := hw.generation_le
    omega
  · intro _ he
    have hse : (c.request wanted).settled = c.settled := rfl
    omega

theorem Renewed.extends {calls calls' : List Call} (hr : c.Renewed k calls)
    (he : Extends calls calls') : c.Renewed k calls' :=
  ⟨Nat.le_trans hr.le he.length_le, fun ch hch hg => (hr.recent ch hch hg).extends he,
    fun rest hse => (hr.outcome rest hse).imp_right (·.extends he)⟩

theorem Renewed.answered {ch : Change} {r : Reply}
    (hs : c.Sound (h.overlay.callsOn c.topic) (h.overlay.endpoint? c.topic))
    (hr : c.Renewed k (h.overlay.callsOn c.topic)) (started : c.change = some ch)
    (reply : h.overlay.reply? ch.ticket = some r) :
    (c.finished ch.wanted ch.generation r).Renewed k (h.overlay.callsOn c.topic) := by
  obtain ⟨before, s, after, hw⟩ := hs.waiting started
  have hle := hw.settled_le
  -- The channel is settled only if this task has read the newest request, and then its call is recent.
  refine ⟨hr.le, ?_, ?_⟩
  · intro ch' hch'
    cases hch'
  · intro _ he
    have hg : ch.generation = c.generation := by
      simp only [finished] at he
      omega
    by_cases hok : r = .ok
    · exact .inl (by simp [finished, hok, hw.newest hg])
    · have recent := hr.recent ch started hg
      have topic : ch.ticket.topic = c.topic := by rw [hw.ticket]
      rw [← topic] at recent ⊢
      exact .inr ⟨r, hok, recent.replied reply⟩

theorem Renewed.poll (hs : c.Sound (h.overlay.callsOn c.topic) (h.overlay.endpoint? c.topic))
    (hr : c.Renewed k (h.overlay.callsOn c.topic)) (hp : c.Polled h (c', h')) :
    c'.Renewed k (h'.overlay.callsOn c.topic) := by
  have extended := extends_call h.overlay c.topic c.topic c.action
  have hcall := changeSince_call h.overlay c.action_kind hr.le
  have hle := Nat.le_trans hr.le extended.length_le
  cases hp with
  | resting => exact hr
  | held => exact hr
  | answered registry started reply => exact hr.answered hs started reply
  | @agreed queued idle next agree =>
    refine ⟨hr.le, ?_, fun _ _ => .inl agree.symm⟩
    intro ch hch
    rw [idle] at hch
    cases hch
  | @called queued idle next differ silent =>
    refine ⟨hle, ?_, ?_⟩
    · intro ch hch _
      simp only [Option.some.injEq] at hch
      subst hch
      exact hcall
    · intro rest
      cases rest
  | @replied queued r registry idle next differ reply =>
    refine ⟨hle, ?_, ?_⟩
    · intro ch hch
      cases hch
    · intro _ _
      by_cases hok : r = .ok
      · exact .inl (by simp [finished, hok])
      · rw [← reply?_call] at reply
        exact .inr ⟨r, hok, hcall.replied (t := (h.overlay.call c.topic c.action).2) reply⟩

theorem Step.renewed {e : Event} (step : Step c h e c' h')
    (hs : c.Sound (h.overlay.callsOn c.topic) (h.overlay.endpoint? c.topic))
    (hr : c.Renewed k (h.overlay.callsOn c.topic)) :
    c'.Renewed k (h'.overlay.callsOn c'.topic) := by
  have ht : c'.topic = c.topic := congrArg Endpoint.topic step.endpoint_eq
  rw [ht]
  cases step with
  | request wanted => exact hs.renewed_request hr.le wanted
  | publish payload => exact hr.extends (publish_overlay c payload h c.topic).extends
  | turn => exact hr.poll hs (c.polled h)
  | aside passes => exact hr.extends passes.extends

theorem Later.sound {es : List Event} (later : Later c h es c' h')
    (hs : c.Sound (h.overlay.callsOn c.topic) (h.overlay.endpoint? c.topic)) :
    c'.Sound (h'.overlay.callsOn c'.topic) (h'.overlay.endpoint? c'.topic) := by
  induction later with
  | now => exact hs
  | step _ step ih => exact step.sound ih

theorem Later.renewed {es : List Event} (later : Later c h es c' h')
    (hs : c.Sound (h.overlay.callsOn c.topic) (h.overlay.endpoint? c.topic))
    (hr : c.Renewed k (h.overlay.callsOn c.topic)) :
    c'.Renewed k (h'.overlay.callsOn c'.topic) := by
  induction later with
  | now => exact hr
  | step later step ih => exact step.renewed (later.sound hs) ih

/-- If the later calls succeed, whatever failed earlier has been put right in the end. -/
theorem Renewed.agreed {calls : List Call} {live : Option Endpoint} (hr : c.Renewed k calls)
    (hs : c.Sound calls live) (finished : c.unfinished = 0)
    (accepted : ∀ s ∈ changesSince k calls, s.reply = some .ok) : c.confirmed = c.wanted := by
  obtain ⟨hi, hsettled⟩ := hs.idle_of_finished finished
  rcases hr.outcome hi.rest hsettled with he | ⟨r, hne, s, hm, hreply⟩
  · exact he
  · rw [accepted s hm, Option.some.injEq] at hreply
    exact (hne hreply.symm).elim

end BeaconGossip.Channel
