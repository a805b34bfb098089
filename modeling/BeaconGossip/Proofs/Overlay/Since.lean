import BeaconGossip.Proofs.Overlay

namespace BeaconGossip.Overlay

/-- The joins and leaves among the calls, the first so many calls left out. -/
def changesSince (k : Nat) (calls : List Call) : List Call := changesIn (calls.drop k)

/-- One of them was given the reply. -/
def RepliedSince (k : Nat) (calls : List Call) (r : Reply) : Prop :=
  ∃ s ∈ changesSince k calls, s.reply = some r

def FailedSince (k : Nat) (calls : List Call) : Prop := ∃ r, r ≠ .ok ∧ RepliedSince k calls r

/-- The call of the given number is one of them. -/
def ChangeSince (k : Nat) (calls : List Call) (n : Nat) : Prop :=
  k ≤ n ∧ ∃ s, calls[n]? = some s ∧ s.changes = true

/-- Later calls on a topic. Each of the earlier ones is still in its place, as it was if it had been
answered. -/
def Extends (calls calls' : List Call) : Prop :=
  ∀ (n : Nat) (s : Call), calls[n]? = some s →
    ∃ s' : Call, calls'[n]? = some s' ∧ s'.action = s.action ∧ (s.reply ≠ none → s' = s)

variable {k : Nat} {calls calls' : List Call} {topic : String} {o o' : Overlay}

theorem Extends.refl (calls : List Call) : Extends calls calls :=
  fun _ s hs => ⟨s, hs, rfl, fun _ => rfl⟩

theorem Extends.trans {calls'' : List Call} (h : Extends calls calls')
    (h' : Extends calls' calls'') : Extends calls calls'' := by
  intro n s hs
  obtain ⟨s', hs', ha, hr⟩ := h n s hs
  obtain ⟨s'', hs'', ha', hr'⟩ := h' n s' hs'
  refine ⟨s'', hs'', ha'.trans ha, ?_⟩
  intro hne
  have he := hr hne
  subst he
  exact hr' hne

theorem extends_append (calls more : List Call) : Extends calls (calls ++ more) := by
  intro n s hs
  have hn := (List.getElem?_eq_some_iff.1 hs).1
  exact ⟨s, (List.getElem?_append_left hn).trans hs, rfl, fun _ => rfl⟩

theorem extends_answered {c : Call} (held : c.reply = none) (before after : List Call) (r : Reply) :
    Extends (before ++ c :: after) (before ++ c.answered r :: after) := by
  intro n s hs
  rcases Nat.lt_trichotomy n before.length with hn | rfl | hn
  · rw [List.getElem?_append_left hn] at hs ⊢
    exact ⟨s, hs, rfl, fun _ => rfl⟩
  · rw [List.getElem?_append_right (Nat.le_refl _), Nat.sub_self, List.getElem?_cons_zero,
      Option.some.injEq] at hs
    subst hs
    refine ⟨c.answered r, ?_, rfl, fun hne => (hne held).elim⟩
    rw [List.getElem?_append_right (Nat.le_refl _), Nat.sub_self, List.getElem?_cons_zero]
  · obtain ⟨m, hm⟩ := Nat.exists_eq_add_of_lt hn
    subst hm
    rw [List.getElem?_append_right (by omega), Nat.add_assoc, Nat.add_sub_cancel_left,
      List.getElem?_cons_succ] at hs
    refine ⟨s, ?_, rfl, fun _ => rfl⟩
    rw [List.getElem?_append_right (by omega), Nat.add_assoc, Nat.add_sub_cancel_left,
      List.getElem?_cons_succ, hs]

theorem Aside.extends (h : Aside topic o o') : Extends (o.callsOn topic) (o'.callsOn topic) := by
  rcases h.seen with ⟨hc, _⟩ | ⟨p, _, hc, _⟩ | ⟨before, c, after, r, held, hc, hc', _⟩
  · rw [hc]
    exact .refl _
  · rw [hc]
    exact extends_append _ [p]
  · rw [hc, hc']
    exact extends_answered held before after r

theorem Passes.extends (h : o.Passes topic o') : Extends (o.callsOn topic) (o'.callsOn topic) := by
  induction h with
  | refl => exact .refl _
  | tail _ h ih => exact ih.trans h.extends

theorem Extends.length_le (h : Extends calls calls') : calls.length ≤ calls'.length := by
  rcases Nat.eq_zero_or_pos calls.length with hz | hp
  · omega
  · obtain ⟨s', hs', _⟩ := h (calls.length - 1) _ (List.getElem?_eq_getElem (by omega))
    have hlt := (List.getElem?_eq_some_iff.1 hs').1
    omega

theorem changes_of_action {s s' : Call} (h : s'.action = s.action) : s'.changes = s.changes := by
  rw [Call.changes, Call.changes, h]

theorem ChangeSince.extends {n : Nat} (h : ChangeSince k calls n) (he : Extends calls calls') :
    ChangeSince k calls' n := by
  obtain ⟨hk, s, hs, hc⟩ := h
  obtain ⟨s', hs', ha, _⟩ := he n s hs
  exact ⟨hk, s', hs', (changes_of_action ha).trans hc⟩

theorem mem_changesSince {s : Call} :
    s ∈ changesSince k calls ↔ ∃ n, k ≤ n ∧ calls[n]? = some s ∧ s.changes = true := by
  rw [changesSince, changesIn, List.mem_filter, List.mem_iff_getElem?]
  constructor
  · rintro ⟨⟨n, hn⟩, hc⟩
    rw [List.getElem?_drop] at hn
    exact ⟨k + n, Nat.le_add_right k n, hn, hc⟩
  · rintro ⟨n, hk, hn, hc⟩
    refine ⟨⟨n - k, ?_⟩, hc⟩
    rw [List.getElem?_drop, Nat.add_sub_cancel' hk, hn]

/-- Where there were no joins and leaves before, all of them are later ones. -/
theorem mem_changesSince_of_none (he : Extends calls calls') (none : changesIn calls = []) {s : Call}
    (hs : s ∈ changesIn calls') : s ∈ changesSince calls.length calls' := by
  obtain ⟨hm, hc⟩ := List.mem_filter.1 hs
  obtain ⟨n, hn⟩ := List.mem_iff_getElem?.1 hm
  refine mem_changesSince.2 ⟨n, Nat.le_of_not_lt fun hlt => ?_, hn, hc⟩
  obtain ⟨s', hs', ha, _⟩ := he n calls[n] (List.getElem?_eq_getElem hlt)
  rw [hn, Option.some.injEq] at hs'
  subst hs'
  have hmem : calls[n] ∈ changesIn calls :=
    List.mem_filter.2 ⟨List.getElem_mem hlt, (changes_of_action ha).symm.trans hc⟩
  rw [none] at hmem
  cases hmem

theorem RepliedSince.extends {r : Reply} (h : RepliedSince k calls r) (he : Extends calls calls') :
    RepliedSince k calls' r := by
  obtain ⟨s, hm, hr⟩ := h
  obtain ⟨n, hk, hs, hc⟩ := mem_changesSince.1 hm
  obtain ⟨s', hs', _, hkept⟩ := he n s hs
  have hss : s' = s := hkept (by simp [hr])
  subst hss
  exact ⟨s', mem_changesSince.2 ⟨n, hk, hs', hc⟩, hr⟩

theorem FailedSince.extends (h : FailedSince k calls) (he : Extends calls calls') :
    FailedSince k calls' := by
  obtain ⟨r, hne, hr⟩ := h
  exact ⟨r, hne, hr.extends he⟩

/-- When the reply to such a call comes, it is the reply to one of them. -/
theorem ChangeSince.replied {t : Ticket} {r : Reply} (h : ChangeSince k (o.callsOn t.topic) t.number)
    (hr : o.reply? t = some r) : RepliedSince k (o.callsOn t.topic) r := by
  obtain ⟨hk, s, hs, hc⟩ := h
  rw [reply?, hs, Option.bind_some] at hr
  exact ⟨s, mem_changesSince.2 ⟨_, hk, hs, hc⟩, hr⟩

theorem changesIn_actions (calls : List Call) :
    (changesIn calls).map (·.action) =
      (calls.map (·.action)).filter fun a => decide (a.kind ≠ .publish) := by
  rw [List.filter_map]
  rfl

theorem changesSince_now (calls : List Call) : changesSince calls.length calls = [] := by
  rw [changesSince, List.drop_length]
  rfl

theorem changesSince_append (h : k ≤ calls.length) (more : List Call) :
    changesSince k (calls ++ more) = changesSince k calls ++ changesIn more := by
  rw [changesSince, List.drop_append_of_le_length h, changesIn_append]
  rfl

theorem Aside.actionsSince (h : Aside topic o o') (hk : k ≤ (o.callsOn topic).length) :
    (changesSince k (o'.callsOn topic)).map (·.action) =
      (changesSince k (o.callsOn topic)).map (·.action) := by
  rcases h.seen with ⟨hc, _⟩ | ⟨p, hp, hc, _⟩ | ⟨before, c, after, r, _, hc, hc', _⟩
  · rw [hc]
  · rw [hc, changesSince_append hk]
    simp [changesIn, hp]
  · have hmap : (o'.callsOn topic).map (·.action) = (o.callsOn topic).map (·.action) := by
      rw [hc, hc', List.map_append, List.map_append, List.map_cons, List.map_cons]
      rfl
    rw [changesSince, changesSince, changesIn_actions, changesIn_actions, List.map_drop, hmap,
      ← List.map_drop]

theorem Passes.actionsSince (h : o.Passes topic o') (hk : k ≤ (o.callsOn topic).length) :
    (changesSince k (o'.callsOn topic)).map (·.action) =
      (changesSince k (o.callsOn topic)).map (·.action) := by
  induction h with
  | refl => rfl
  | tail h' h ih =>
    exact (h.actionsSince (Nat.le_trans hk (Passes.extends h').length_le)).trans ih

section Call

variable (o : Overlay) {a : Action}

theorem extends_call (t topic : String) (a : Action) :
    Extends (o.callsOn topic) ((o.call t a).1.callsOn topic) := by
  rw [callsOn_call]
  split
  · exact extends_append _ [o.made t a]
  · exact .refl _

theorem changeSince_call (ha : a.kind ≠ .publish) (hk : k ≤ (o.callsOn topic).length) :
    ChangeSince k ((o.call topic a).1.callsOn topic) (o.call topic a).2.number := by
  refine ⟨hk, o.made topic a, ?_, ?_⟩
  · rw [call_ticket, callsOn_call, if_pos rfl, List.getElem?_concat_length]
  · simpa [Call.changes, made_action] using ha

end Call

section Numbers

variable {own : List Nat} {r : Reply}

/-- The numbers of the joins and leaves of the topic that have been made from the one overlay to the
other. -/
def newChanges (topic : String) (o o' : Overlay) : List Nat :=
  (List.range' (o.callsOn topic).length
    ((o'.callsOn topic).length - (o.callsOn topic).length)).filter fun n =>
      ((o'.callsOn topic)[n]?).any (·.changes)

theorem newChanges_of_passes (h : o.Passes topic o') : newChanges topic o o' = [] := by
  have hactions := h.actionsSince (Nat.le_refl _)
  rw [changesSince_now, List.map_nil, List.map_eq_nil_iff] at hactions
  refine List.filter_eq_nil_iff.2 ?_
  intro n hn hc
  obtain ⟨s, hs, hc⟩ := (Option.any_eq_true _ _).1 hc
  have hm := mem_changesSince.2 ⟨n, (List.mem_range'_1.1 hn).1, hs, hc⟩
  rw [hactions] at hm
  cases hm

theorem newChanges_call (o : Overlay) (topic : String) {a : Action} (ha : a.kind ≠ .publish) :
    newChanges topic o (o.call topic a).1 = [(o.callsOn topic).length] := by
  have hm : (o.made topic a).changes = true := by simpa [Call.changes, made_action] using ha
  rw [newChanges, callsOn_call, if_pos rfl, List.length_append, List.length_singleton,
    Nat.add_sub_cancel_left, List.range'_one]
  exact List.filter_cons_of_pos (by rw [List.getElem?_concat_length]; exact hm)

/-- The calls of the given numbers. -/
def callsAt (numbers : List Nat) (calls : List Call) : List Call := numbers.filterMap (calls[·]?)

theorem mem_callsAt {s : Call} : s ∈ callsAt own calls ↔ ∃ n ∈ own, calls[n]? = some s :=
  List.mem_filterMap

theorem callsAt_cons {n : Nat} {s : Call} (hs : calls[n]? = some s) :
    callsAt (n :: own) calls = s :: callsAt own calls := List.filterMap_cons_some hs

/-- One of them was given the reply. -/
def RepliedAt (numbers : List Nat) (calls : List Call) (r : Reply) : Prop :=
  ∃ s ∈ callsAt numbers calls, s.reply = some r

def FailedAt (numbers : List Nat) (calls : List Call) : Prop :=
  ∃ r, r ≠ .ok ∧ RepliedAt numbers calls r

theorem RepliedAt.extends (h : RepliedAt own calls r) (he : Extends calls calls') :
    RepliedAt own calls' r := by
  obtain ⟨s, hm, hr⟩ := h
  obtain ⟨n, hn, hs⟩ := mem_callsAt.1 hm
  obtain ⟨s', hs', _, hkept⟩ := he n s hs
  have hss : s' = s := hkept (by simp [hr])
  subst hss
  exact ⟨s', mem_callsAt.2 ⟨n, hn, hs'⟩, hr⟩

theorem FailedAt.extends (h : FailedAt own calls) (he : Extends calls calls') :
    FailedAt own calls' := by
  obtain ⟨r, hne, hr⟩ := h
  exact ⟨r, hne, hr.extends he⟩

theorem FailedAt.more (h : FailedAt own calls) (n : Nat) : FailedAt (own ++ [n]) calls := by
  obtain ⟨r, hne, s, hm, hr⟩ := h
  obtain ⟨m, hm, hs⟩ := mem_callsAt.1 hm
  exact ⟨r, hne, s, mem_callsAt.2 ⟨m, List.mem_append_left _ hm, hs⟩, hr⟩

theorem repliedAt_of_reply? {t : Ticket} (hm : t.number ∈ own) (hr : o.reply? t = some r) :
    RepliedAt own (o.callsOn t.topic) r := by
  rw [reply?] at hr
  obtain ⟨s, hs, hr⟩ := Option.bind_eq_some_iff.1 hr
  exact ⟨s, mem_callsAt.2 ⟨_, hm, hs⟩, hr⟩

end Numbers

end BeaconGossip.Overlay
