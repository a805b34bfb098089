import BeaconGossip.Overlay
import Mathlib.Logic.Relation

namespace BeaconGossip.Overlay

def Rule.hold (kind : ActionKind) (topic : Option String) : Rule := ⟨kind, topic, .hold, by simp⟩

def Rule.accept (kind : ActionKind) (topic : Option String) : Rule :=
  ⟨kind, topic, .answer (.reply .ok), by simp⟩

def Rule.refuse (kind : ActionKind) (topic : Option String) (reason : String) : Rule :=
  ⟨kind, topic, .answer (.transport reason), by simp⟩

/-- All held calls of the kind are accepted. -/
def Release.accept (kind : ActionKind) (topic : Option String) : Release :=
  ⟨kind, topic, .reply .ok, none, by simp⟩

/-- All held calls of the kind are refused. -/
def Release.refuse (kind : ActionKind) (topic : Option String) (reason : String) : Release :=
  ⟨kind, topic, .transport reason, none, by simp⟩

/-- Whether the call joins or leaves its topic. -/
def Call.changes (c : Call) : Bool := decide (c.action.kind ≠ .publish)

def Call.answered (c : Call) (r : Reply) : Call := { c with reply := some r }

/-- Only a publish can be torn down with the task that made it. -/
def Call.Admits (c : Call) (r : Reply) : Prop := r = .died → c.action.kind = .publish

instance (c : Call) (r : Reply) : Decidable (c.Admits r) :=
  inferInstanceAs (Decidable (_ → _))

/-- The joins and leaves among the calls. -/
def changesIn (calls : List Call) : List Call := calls.filter (·.changes)

/-- The joins and leaves that were answered with success. -/
def acceptedIn (calls : List Call) : List Call :=
  (changesIn calls).filter fun c => decide (c.reply = some .ok)

/-- What a call does to the endpoint that is live on its topic. -/
def afterCall (live : Option Endpoint) (c : Call) : Option Endpoint :=
  match c.reply, c.action with
  | some .ok, .join endpoint => some endpoint
  | some .ok, .leave => none
  | _, _ => live

/-- The call as it stands once it has been made. -/
def made (o : Overlay) (topic : String) (action : Action) : Call :=
  match o.behaviour action.kind topic with
  | .answer a => ⟨topic, action, some (a.on topic)⟩
  | .hold => ⟨topic, action, none⟩

/-- Answers the call at the given place, if it is held and admits the reply. -/
def answer (o : Overlay) (n : Nat) (r : Reply) : Overlay :=
  match o.calls[n]? with
  | none => o
  | some c =>
    if c.reply = none ∧ c.Admits r then
      { o with live := afterReply o.live (c.answered r), calls := o.calls.set n (c.answered r) }
    else o

@[simp] theorem Call.answered_changes (c : Call) (r : Reply) :
    (c.answered r).changes = c.changes := rfl

@[simp] theorem changesIn_append (calls calls' : List Call) :
    changesIn (calls ++ calls') = changesIn calls ++ changesIn calls' := List.filter_append ..

theorem changesIn_cons (c : Call) (calls : List Call) :
    changesIn (c :: calls) = if c.changes then c :: changesIn calls else changesIn calls :=
  List.filter_cons ..

@[simp] theorem acceptedIn_append (calls calls' : List Call) :
    acceptedIn (calls ++ calls') = acceptedIn calls ++ acceptedIn calls' := by
  simp only [acceptedIn, changesIn_append, List.filter_append]

theorem made_topic (o : Overlay) (topic : String) (a : Action) : (o.made topic a).topic = topic := by
  unfold made
  split <;> rfl

theorem made_action (o : Overlay) (topic : String) (a : Action) : (o.made topic a).action = a := by
  unfold made
  split <;> rfl

theorem call_calls (o : Overlay) (topic : String) (a : Action) :
    (o.call topic a).1.calls = o.calls ++ [o.made topic a] := rfl

theorem call_live (o : Overlay) (topic : String) (a : Action) :
    (o.call topic a).1.live = afterReply o.live (o.made topic a) := rfl

theorem call_ticket (o : Overlay) (topic : String) (a : Action) :
    (o.call topic a).2 = ⟨topic, (o.callsOn topic).length⟩ := rfl

theorem lookup_filter_ne {α : Type} (live : List (String × α)) (t topic : String) :
    (live.filter (·.1 ≠ t)).lookup topic = if topic = t then none else live.lookup topic := by
  induction live with
  | nil => simp
  | cons entry rest ih =>
    obtain ⟨s, e⟩ := entry
    by_cases hs : s = t
    · subst hs
      rw [List.filter_cons_of_neg (by simp), ih]
      by_cases ht : topic = s
      · simp only [if_pos ht]
      · simp only [if_neg ht, List.lookup_cons, beq_eq_false_iff_ne.2 ht]
    · rw [List.filter_cons_of_pos (by simpa using hs)]
      by_cases ht : topic = s
      · subst ht
        simp [hs]
      · simp only [List.lookup_cons, beq_eq_false_iff_ne.2 ht, ih]

/-- A call bears on the endpoint of its own topic only. -/
theorem lookup_afterReply (live : List (String × Endpoint)) (c : Call) (topic : String) :
    (afterReply live c).lookup topic =
      if c.topic = topic then afterCall (live.lookup topic) c else live.lookup topic := by
  unfold afterReply
  split
  case h_1 endpoint hr ha =>
    rw [List.lookup_cons, lookup_filter_ne]
    by_cases ht : c.topic = topic
    · simp [ht, afterCall, hr, ha]
    · simp [beq_eq_false_iff_ne.2 (Ne.symm ht), ht, Ne.symm ht]
  case h_2 hr ha =>
    rw [lookup_filter_ne]
    by_cases ht : c.topic = topic
    · simp [ht, afterCall, hr, ha]
    · simp [ht, Ne.symm ht]
  case h_3 hj hl =>
    by_cases ht : c.topic = topic
    · rw [if_pos ht, afterCall]
      split
      case h_1 hr ha => exact (hj _ hr ha).elim
      case h_2 hr ha => exact (hl hr ha).elim
      case h_3 => rfl
    · rw [if_neg ht]

theorem callsOn_call (o : Overlay) (t topic : String) (a : Action) :
    (o.call t a).1.callsOn topic =
      if t = topic then o.callsOn topic ++ [o.made t a] else o.callsOn topic := by
  simp only [callsOn, call_calls, List.filter_append, List.filter_cons, List.filter_nil, made_topic]
  by_cases ht : t = topic <;> simp [ht]

theorem endpoint?_call (o : Overlay) (t topic : String) (a : Action) :
    (o.call t a).1.endpoint? topic =
      if t = topic then afterCall (o.endpoint? topic) (o.made t a) else o.endpoint? topic := by
  simp only [endpoint?, call_live, lookup_afterReply, made_topic]

theorem reply?_call (o : Overlay) (topic : String) (a : Action) :
    (o.call topic a).1.reply? (o.call topic a).2 = (o.made topic a).reply := by
  rw [reply?, call_ticket, callsOn_call, if_pos rfl]
  simp

theorem afterCall_of_not_changes {c : Call} (live : Option Endpoint) (h : c.changes = false) :
    afterCall live c = live := by
  obtain ⟨t, a, reply⟩ := c
  cases a with
  | join => simp [Call.changes, Action.kind] at h
  | leave => simp [Call.changes, Action.kind] at h
  | publish => cases reply with
    | none => rfl
    | some r => cases r <;> rfl

theorem made_changes_of_publish (o : Overlay) (t : String) {a : Action} (h : a.kind = .publish) :
    (o.made t a).changes = false := by
  simp only [Call.changes, made_action, h, ne_eq, not_true_eq_false, decide_false]

theorem Answer.on_eq_died {a : Answer} {topic : String} (h : a.on topic = .died) :
    a = .reply .died := by
  cases a with
  | reply r => rw [← h, Answer.on]
  | transport reason => cases h

theorem rule?_spares {o : Overlay} {kind : ActionKind} {topic : Option String}
    (h : o.rule? kind topic = some (.answer (.reply .died))) : kind = .publish := by
  obtain ⟨rule, found, behaviour⟩ := Option.map_eq_some_iff.1 h
  have same := List.find?_some found
  simp only [decide_eq_true_eq] at same
  rw [← same.1]
  exact rule.spares behaviour

theorem made_spares (o : Overlay) (topic : String) {a : Action} (h : a.kind ≠ .publish) :
    (o.made topic a).reply ≠ some .died := by
  intro died
  apply h
  have answered : o.behaviour a.kind topic = .answer (.reply .died) := by
    cases hb : o.behaviour a.kind topic with
    | hold => simp [made, hb] at died
    | answer r =>
      simp only [made, hb, Option.some.injEq] at died
      rw [Answer.on_eq_died died]
  unfold behaviour at answered
  cases own : o.rule? a.kind (some topic) with
  | some b =>
    simp only [own, Option.some_or, Option.getD_some] at answered
    exact rule?_spares (own.trans (congrArg some answered))
  | none =>
    cases general : o.rule? a.kind none with
    | some b =>
      simp only [own, general, Option.none_or, Option.getD_some] at answered
      exact rule?_spares (general.trans (congrArg some answered))
    | none => simp [own, general] at answered

/-- What can happen to an overlay in one go, apart from a join or a leave of the topic: its rules
change, a call is made, or a held call is answered. -/
inductive Aside (topic : String) : Overlay → Overlay → Prop where
  | rules (o : Overlay) (rules : List Rule) : Aside topic o { o with rules := rules }
  | call (o : Overlay) (t : String) (a : Action) (h : t = topic → a.kind = .publish) :
    Aside topic o (o.call t a).1
  | answer (rules : List Rule) (live : List (String × Endpoint)) (before : List Call) (c : Call)
      (after : List Call) (r : Reply) (held : c.reply = none) (admits : c.Admits r) :
    Aside topic ⟨rules, live, before ++ c :: after⟩
      ⟨rules, afterReply live (c.answered r), before ++ c.answered r :: after⟩

/-- Any number of such events. -/
def Passes (topic : String) : Overlay → Overlay → Prop := Relation.ReflTransGen (Aside topic)

/-- As seen from the topic, nothing happened, a payload was published, or a held call was
answered. -/
theorem Aside.seen {topic : String} {o o' : Overlay} (h : Aside topic o o') :
    (o'.callsOn topic = o.callsOn topic ∧ o'.endpoint? topic = o.endpoint? topic) ∨
      (∃ c, c.changes = false ∧ o'.callsOn topic = o.callsOn topic ++ [c] ∧
        o'.endpoint? topic = o.endpoint? topic) ∨
      ∃ before c after r, c.reply = none ∧ o.callsOn topic = before ++ c :: after ∧
        o'.callsOn topic = before ++ c.answered r :: after ∧
        o'.endpoint? topic = afterCall (o.endpoint? topic) (c.answered r) ∧ c.Admits r := by
  cases h with
  | rules => exact .inl ⟨rfl, rfl⟩
  | call _ t a h =>
    by_cases ht : t = topic
    · have hp := made_changes_of_publish o t (h ht)
      refine .inr (.inl ⟨o.made t a, hp, ?_, ?_⟩)
      · rw [callsOn_call, if_pos ht]
      · rw [endpoint?_call, if_pos ht, afterCall_of_not_changes _ hp]
    · exact .inl ⟨by rw [callsOn_call, if_neg ht], by rw [endpoint?_call, if_neg ht]⟩
  | answer rules live before c after r held admits =>
    by_cases ht : c.topic = topic
    · refine .inr (.inr ⟨before.filter (·.topic = topic), c, after.filter (·.topic = topic), r,
        held, ?_, ?_, ?_, admits⟩)
      · simp [callsOn, ht]
      · simp [callsOn, Call.answered, ht]
      · simp only [endpoint?, lookup_afterReply, Call.answered, ht, ↓reduceIte]
    · refine .inl ⟨?_, ?_⟩
      · simp [callsOn, Call.answered, ht]
      · simp only [endpoint?, lookup_afterReply, Call.answered, ht, ↓reduceIte]

/-- Whoever joined or left was not torn down. -/
def Spared (calls : List Call) : Prop := ∀ s ∈ changesIn calls, s.reply ≠ some .died

theorem Spared.snoc {calls : List Call} {c : Call} (h : Spared calls)
    (hc : c.changes = true → c.reply ≠ some .died) : Spared (calls ++ [c]) := by
  intro s hs
  rw [changesIn_append, List.mem_append] at hs
  rcases hs with hs | hs
  · exact h s hs
  · obtain ⟨hm, changes⟩ := List.mem_filter.1 hs
    obtain rfl := List.mem_singleton.1 hm
    exact hc changes

theorem Spared.aside {topic : String} {o o' : Overlay} (h : Spared (o.callsOn topic))
    (aside : Aside topic o o') : Spared (o'.callsOn topic) := by
  rcases aside.seen with ⟨same, -⟩ | ⟨c, publish, added, -⟩ |
    ⟨before, c, after, r, -, split, answered, -, admits⟩
  · rw [same]
    exact h
  · rw [added]
    apply h.snoc
    rw [publish]
    exact fun changes => absurd changes Bool.false_ne_true
  · intro s hs
    rw [answered] at hs
    obtain ⟨hm, changes⟩ := List.mem_filter.1 hs
    rw [List.mem_append, List.mem_cons] at hm
    rcases hm with hm | rfl | hm
    · exact h s (List.mem_filter.2 ⟨by simp [split, hm], changes⟩)
    · intro died
      cases died
      exact of_decide_eq_true changes (admits rfl)
    · exact h s (List.mem_filter.2 ⟨by simp [split, hm], changes⟩)

theorem Spared.passes {topic : String} {o o' : Overlay} (h : Spared (o.callsOn topic))
    (passes : o.Passes topic o') : Spared (o'.callsOn topic) := by
  induction passes with
  | refl => exact h
  | tail _ aside ih => exact ih.aside aside

theorem passes_setRule (o : Overlay) (rule : Rule) (topic : String) :
    Passes topic o (o.setRule rule) := .single (.rules o _)

theorem passes_publish (o : Overlay) (t : String) (payload : Bytes) (topic : String) :
    Passes topic o (o.call t (.publish payload)).1 := .single (.call o t _ fun _ => rfl)

theorem passes_answer (o : Overlay) (n : Nat) (r : Reply) (topic : String) :
    Passes topic o (o.answer n r) := by
  unfold answer
  split
  · exact .refl
  · rename_i c hc
    split
    · rename_i hr
      obtain ⟨hn, he⟩ := List.getElem?_eq_some_iff.1 hc
      have hcalls : o.calls = o.calls.take n ++ c :: o.calls.drop (n + 1) := by
        rw [← he, List.getElem_cons_drop, List.take_append_drop]
      have hset : o.calls.set n (c.answered r) =
          o.calls.take n ++ c.answered r :: o.calls.drop (n + 1) :=
        List.set_eq_take_append_cons_drop .. ▸ if_pos hn
      rw [hset]
      have hstep := @Aside.answer topic o.rules o.live (o.calls.take n) c
        (o.calls.drop (n + 1)) r hr.1 hr.2
      rw [← hcalls] at hstep
      exact .single hstep
    · exact .refl

theorem Release.admits (r : Release) {c : Call} (hc : r.concerns c = true) :
    c.Admits (r.outcome.on c.topic) := by
  intro died
  simp only [Release.concerns, Bool.and_eq_true, decide_eq_true_eq] at hc
  exact hc.1.2.trans (r.spares (Answer.on_eq_died died))

theorem passes_answers (rules : List Rule) (r : Release) (topic : String) (most : Nat)
    (calls : List Call) : ∀ (live : List (String × Endpoint)) (before : List Call),
    Passes topic ⟨rules, live, before ++ calls⟩
      ⟨rules, (r.answer most calls).2.foldl afterReply live,
        before ++ (r.answer most calls).1⟩ := by
  fun_induction r.answer most calls with
  | case1 => exact fun _ _ => .refl
  | case2 => exact fun _ _ => .refl
  | case3 most c rest hc c' rest' answered he ih =>
    intro live before
    have hheld : c.reply = none := by
      simp only [Release.concerns, Bool.and_eq_true, Option.isNone_iff_eq_none] at hc
      exact hc.1.1
    refine .head (.answer rules live before c rest _ hheld (r.admits hc)) ?_
    have hrest := ih (afterReply live c') (before ++ [c'])
    simp only [he, List.append_assoc, List.cons_append, List.nil_append] at hrest
    exact hrest
  | case4 most c rest hc rest' answered he ih =>
    intro live before
    simpa [he] using ih live (before ++ [c])

theorem passes_release (o : Overlay) (r : Release) (topic : String) :
    Passes topic o (o.release r).2 :=
  passes_answers o.rules r topic _ o.calls o.live []

end BeaconGossip.Overlay
