import BeaconGossip.Proofs.Overlay.Since
import BeaconGossip.Proofs.Publishing
import Mathlib.Data.List.Nodup

namespace BeaconGossip.Overlay

def call? (o : Overlay) (t : Ticket) : Option Call := (o.callsOn t.topic)[t.number]?

def action? (o : Overlay) (t : Ticket) : Option Action := (o.call? t).map (·.action)

/-- A later overlay, in which only calls of the given kinds have been added. -/
structure Adds (K : ActionKind → Prop) (o o' : Overlay) : Prop where
  kept : ∀ topic, Extends (o.callsOn topic) (o'.callsOn topic)
  added : ∀ t s, o'.call? t = some s → o.call? t = none → K s.action.kind

/-- The tickets of all calls of the given kinds, each of them once. -/
structure Names (K : ActionKind → Prop) (o : Overlay) (tickets : List Ticket) : Prop where
  nodup : tickets.Nodup
  mem_iff : ∀ t, t ∈ tickets ↔ ∃ s, o.call? t = some s ∧ K s.action.kind

variable {K K' : ActionKind → Prop} {o o' o'' : Overlay} {t : Ticket} {tickets : List Ticket}

namespace Adds

theorem refl (K : ActionKind → Prop) (o : Overlay) : Adds K o o := by
  refine ⟨fun topic => .refl _, fun t s some none => ?_⟩
  rw [none] at some
  cases some

theorem call? (h : Adds K o o') {s : Call} (hs : o.call? t = some s) :
    ∃ s', o'.call? t = some s' ∧ s'.action = s.action ∧ (s.reply ≠ none → s' = s) :=
  h.kept t.topic t.number s hs

theorem trans (h : Adds K o o') (h' : Adds K o' o'') : Adds K o o'' := by
  refine ⟨fun topic => (h.kept topic).trans (h'.kept topic), fun t s some none => ?_⟩
  cases middle : o'.call? t with
  | none => exact h'.added t s some middle
  | some s' =>
    obtain ⟨s'', some', action, -⟩ := h'.call? middle
    rw [some, Option.some.injEq] at some'
    rw [some', action]
    exact h.added t s' middle none

theorem of_eq (K : ActionKind → Prop) (he : o' = o) : Adds K o o' := he ▸ .refl K o

theorem reply? (h : Adds K o o') {r : Reply} (hr : o.reply? t = some r) :
    o'.reply? t = some r := by
  obtain ⟨s, hs, reply⟩ := Option.bind_eq_some_iff.1 hr
  obtain ⟨s', hs', -, same⟩ := h.call? hs
  obtain rfl := same (by rw [reply]; exact Option.some_ne_none r)
  exact Option.bind_eq_some_iff.2 ⟨s', hs', reply⟩

theorem reply?_eq (h : Adds K o o') (replied : o.reply? t ≠ none) :
    o'.reply? t = o.reply? t := by
  obtain ⟨r, hr⟩ := Option.ne_none_iff_exists'.1 replied
  rw [hr]
  exact h.reply? hr

theorem action?_eq (h : Adds K o o') (called : o.call? t ≠ none) :
    o'.action? t = o.action? t := by
  obtain ⟨s, hs⟩ := Option.ne_none_iff_exists'.1 called
  obtain ⟨s', hs', action, -⟩ := h.call? hs
  rw [action?, action?, hs, hs', Option.map_some, Option.map_some, action]

/-- Nothing is added if every topic has as many calls as before. -/
theorem of_length (kept : ∀ topic, Extends (o.callsOn topic) (o'.callsOn topic))
    (length : ∀ topic, (o'.callsOn topic).length = (o.callsOn topic).length) :
    Adds K o o' := by
  refine ⟨kept, fun t s some none => ?_⟩
  have lt := (List.getElem?_eq_some_iff.1 some).1
  rw [length] at lt
  have ge := List.getElem?_eq_none_iff.1 none
  omega

end Adds

theorem length_callsOn (o : Overlay) (topic : String) :
    (o.callsOn topic).length = (o.calls.map (·.request)).countP (·.1 = topic) := by
  rw [callsOn, ← List.countP_eq_length_filter, List.countP_map]
  rfl

theorem adds_of_requests (kept : ∀ topic, Extends (o.callsOn topic) (o'.callsOn topic))
    (requests : o'.calls.map (·.request) = o.calls.map (·.request)) : Adds K o o' := by
  refine .of_length kept fun topic => ?_
  rw [length_callsOn, length_callsOn, requests]

theorem adds_answer (K : ActionKind → Prop) (o : Overlay) (n : Nat) (r : Reply) :
    Adds K o (o.answer n r) :=
  adds_of_requests (fun topic => (passes_answer o n r topic).extends) (o.answer_requests n r)

theorem adds_release (K : ActionKind → Prop) (o : Overlay) (r : Release) :
    Adds K o (o.release r).2 :=
  adds_of_requests (fun topic => (passes_release o r topic).extends)
    (requests_answer r _ o.calls)

theorem call?_call (o : Overlay) (topic : String) (a : Action) (t : Ticket) :
    (o.call topic a).1.call? t =
      if t = (o.call topic a).2 then some (o.made topic a) else o.call? t := by
  obtain ⟨topic', number⟩ := t
  rw [call?, call?, callsOn_call, call_ticket]
  by_cases ht : topic = topic'
  · subst ht
    rw [if_pos rfl]
    by_cases hn : number = (o.callsOn topic).length
    · subst hn
      rw [if_pos rfl]
      exact List.getElem?_concat_length
    · rw [if_neg (fun h => hn (congrArg (·.number) h)), List.getElem?_append]
      dsimp only
      split
      · rfl
      · rw [List.getElem?_eq_none (by simp only [List.length_singleton]; omega),
          List.getElem?_eq_none (by omega)]
  · rw [if_neg ht, if_neg (fun h => ht (congrArg (·.topic) h).symm)]

theorem call?_ticket (o : Overlay) (topic : String) (a : Action) :
    o.call? (o.call topic a).2 = none := by
  rw [call?, call_ticket]
  exact List.getElem?_eq_none (Nat.le_refl _)

theorem action?_call (o : Overlay) (topic : String) (a : Action) :
    (o.call topic a).1.action? (o.call topic a).2 = some a := by
  rw [action?, call?_call, if_pos rfl, Option.map_some, made_action]

theorem adds_call (o : Overlay) (topic : String) {a : Action} (ha : K a.kind) :
    Adds K o (o.call topic a).1 := by
  refine ⟨fun topic' => extends_call o topic topic' a, fun t s some none => ?_⟩
  rw [call?_call] at some
  split at some
  · rw [← Option.some.inj some, made_action]
    exact ha
  · rw [none] at some
    cases some

theorem names_idle (K : ActionKind → Prop) : Names K .idle [] := by
  refine ⟨List.nodup_nil, fun t => iff_of_false List.not_mem_nil ?_⟩
  rintro ⟨s, hs, -⟩
  cases hs

namespace Names

theorem called (h : Names K o tickets) (ht : t ∈ tickets) : o.call? t ≠ none := by
  obtain ⟨s, hs, -⟩ := (h.mem_iff t).1 ht
  rw [hs]
  exact Option.some_ne_none s

theorem not_mem_ticket (h : Names K o tickets) (topic : String) (a : Action) :
    (o.call topic a).2 ∉ tickets := by
  intro hm
  obtain ⟨s, hs, -⟩ := (h.mem_iff _).1 hm
  rw [call?_ticket] at hs
  cases hs

theorem adds (h : Names K o tickets) (later : Adds K' o o') (apart : ∀ k, K' k → ¬ K k) :
    Names K o' tickets := by
  refine ⟨h.nodup, fun t => (h.mem_iff t).trans ⟨?_, ?_⟩⟩
  · rintro ⟨s, hs, hk⟩
    obtain ⟨s', hs', action, -⟩ := later.call? hs
    exact ⟨s', hs', action ▸ hk⟩
  · rintro ⟨s', hs', hk⟩
    cases hs : o.call? t with
    | none => exact (apart _ (later.added t s' hs' hs) hk).elim
    | some s =>
      obtain ⟨s'', hs'', action, -⟩ := later.call? hs
      rw [hs', Option.some.injEq] at hs''
      exact ⟨s, rfl, by rw [← action, ← hs'']; exact hk⟩

theorem call (h : Names K o tickets) (topic : String) {a : Action} (ha : K a.kind) :
    Names K (o.call topic a).1 (tickets ++ [(o.call topic a).2]) := by
  refine ⟨?_, fun t => ?_⟩
  · rw [List.nodup_append]
    refine ⟨h.nodup, List.nodup_singleton _, fun t ht t' ht' => ?_⟩
    rintro rfl
    rw [List.mem_singleton.1 ht'] at ht
    exact h.not_mem_ticket topic a ht
  · rw [List.mem_append, List.mem_singleton, call?_call, h.mem_iff]
    by_cases ht : t = (o.call topic a).2
    · rw [if_pos ht]
      refine iff_of_true (.inr ht) ⟨_, rfl, ?_⟩
      rw [made_action]
      exact ha
    · rw [if_neg ht, or_iff_left ht]

end Names

end BeaconGossip.Overlay
