import BeaconGossip.Proofs.Publishing
import Mathlib.Data.List.Forall2

namespace BeaconGossip.Overlay

variable {P : String → Prop} {topic : String} {o o' o'' p p' : Overlay}

structure Beyond (P : String → Prop) (o o' : Overlay) : Prop where
  rules : ∀ kind topic, (∀ t ∈ topic, ¬ P t) → o'.rule? kind topic = o.rule? kind topic
  /-- The calls on other topics are the same, and in the same order. -/
  calls : ∀ far : String → Bool, (∀ t, far t = true → ¬ P t) →
    o'.calls.filter (far ·.topic) = o.calls.filter (far ·.topic)
  live : ∀ topic, ¬ P topic → o'.endpoint? topic = o.endpoint? topic

namespace Beyond

theorem refl (P : String → Prop) (o : Overlay) : Beyond P o o :=
  ⟨fun _ _ _ => rfl, fun _ _ => rfl, fun _ _ => rfl⟩

theorem symm (h : Beyond P o o') : Beyond P o' o :=
  ⟨fun kind topic ht => (h.rules kind topic ht).symm, fun far hf => (h.calls far hf).symm,
    fun topic ht => (h.live topic ht).symm⟩

theorem trans (h : Beyond P o o') (h' : Beyond P o' o'') : Beyond P o o'' :=
  ⟨fun kind topic ht => (h'.rules kind topic ht).trans (h.rules kind topic ht),
    fun far hf => (h'.calls far hf).trans (h.calls far hf),
    fun topic ht => (h'.live topic ht).trans (h.live topic ht)⟩

theorem callsOn (h : Beyond P o o') (ht : ¬ P topic) : o'.callsOn topic = o.callsOn topic := by
  apply h.calls fun t => decide (t = topic)
  intro t on
  rw [of_decide_eq_true on]
  exact ht

theorem made (h : Beyond P o o') (ht : ¬ P topic) (a : Action) :
    o'.made topic a = o.made topic a := by
  have own := h.rules a.kind (some topic) (by simpa using ht)
  have general := h.rules a.kind none (by simp)
  rw [Overlay.made, Overlay.made, behaviour, behaviour, own, general]

theorem reply? (h : Beyond P o o') {t : Ticket} (ht : ¬ P t.topic) : o'.reply? t = o.reply? t := by
  rw [Overlay.reply?, Overlay.reply?, h.callsOn ht]

theorem call (h : Beyond P o o') (t : String) (a : Action) :
    Beyond P (o.call t a).1 (o'.call t a).1 := by
  refine ⟨h.rules, ?_, ?_⟩
  · intro far hf
    rw [call_calls, call_calls, List.filter_append, List.filter_append, h.calls far hf]
    cases on : far t with
    | true => rw [h.made (hf t on)]
    | false =>
      rw [List.filter_cons_of_neg (by simp [made_topic, on]),
        List.filter_cons_of_neg (by simp [made_topic, on])]
  · intro topic ht
    rw [endpoint?_call, endpoint?_call, h.live topic ht]
    split
    case isTrue he =>
      subst he
      rw [h.made ht]
    case isFalse => rfl

theorem published (h : Beyond P o o') (output : List (String × Bytes)) :
    Beyond P (o.published output) (o'.published output) := by
  induction output generalizing o o' with
  | nil => exact h
  | cons entry rest ih => exact ih (h.call entry.1 (.publish entry.2))

theorem setRule (h : Beyond P o o') (rule : Rule) :
    Beyond P (o.setRule rule) (o'.setRule rule) := by
  refine ⟨?_, h.calls, h.live⟩
  intro kind topic ht
  have hrest := h.rules kind topic ht
  rw [rule?, rule?] at hrest
  rw [rule?, rule?, Overlay.setRule, Overlay.setRule, List.find?_cons, List.find?_cons]
  split
  · rfl
  · exact hrest

end Beyond

theorem beyond_call (o : Overlay) (near : P topic) (a : Action) :
    Beyond P o (o.call topic a).1 := by
  refine ⟨fun _ _ _ => rfl, ?_, ?_⟩
  · intro far hf
    have off : ¬ far topic = true := fun on => hf topic on near
    rw [call_calls, List.filter_append, List.filter_cons_of_neg (by rwa [made_topic]),
      List.filter_nil, List.append_nil]
  · intro t ht
    have apart : topic ≠ t := by
      rintro rfl
      exact ht near
    rw [endpoint?_call, if_neg apart]

section Answers

/-- Of the calls in the first list, those that are answered in the second and were not before. -/
def newly : List Call → List Call → List Call
  | c :: calls, c' :: calls' =>
    if c.reply.isNone && c'.reply.isSome then c' :: newly calls calls' else newly calls calls'
  | _, _ => []

/-- The same calls, some of which have been answered. -/
def Filled : List Call → List Call → Prop :=
  List.Forall₂ fun c c' => c'.request = c.request ∧ ∀ r, c.reply = some r → c'.reply = some r

/-- Held calls have been answered and rules for the topics have been set, and nothing else has
happened. -/
structure Answers (P : String → Prop) (o p : Overlay) : Prop where
  rules : ∀ kind topic, (∀ t ∈ topic, ¬ P t) → p.rule? kind topic = o.rule? kind topic
  filled : Filled o.calls p.calls
  live : p.live = (newly o.calls p.calls).foldl afterReply o.live

/-- The reply to the call, if it has been given in between. -/
def news (o p : Overlay) (t : Ticket) : Option Reply :=
  if (o.reply? t).isSome then none else p.reply? t

theorem newly_self (calls : List Call) : newly calls calls = [] := by
  induction calls with
  | nil => rfl
  | cons c rest ih =>
    rw [newly, ih]
    cases c.reply <;> rfl

theorem lookup_foldl_afterReply (live : List (String × Endpoint)) (answered : List Call)
    (topic : String) :
    (answered.foldl afterReply live).lookup topic =
      (answered.filter (·.topic = topic)).foldl afterCall (live.lookup topic) := by
  induction answered generalizing live with
  | nil => rfl
  | cons c rest ih =>
    rw [List.foldl_cons, ih, lookup_afterReply, List.filter_cons]
    by_cases ht : c.topic = topic <;> simp [ht]

namespace Filled

variable {calls filled : List Call}

theorem refl (calls : List Call) : Filled calls calls :=
  List.forall₂_same.2 fun _ _ => ⟨rfl, fun _ => id⟩

theorem far (h : Filled calls filled) (far : String → Bool) :
    Filled (calls.filter (far ·.topic)) (filled.filter (far ·.topic)) := by
  induction h with
  | nil => exact .nil
  | @cons c c' _ _ hc _ ih =>
    have ht : c'.topic = c.topic := congrArg (·.1) hc.1
    rw [List.filter_cons, List.filter_cons, ht]
    split
    · exact .cons hc ih
    · exact ih

theorem filter (h : Filled calls filled) (topic : String) :
    Filled (calls.filter (·.topic = topic)) (filled.filter (·.topic = topic)) :=
  h.far fun t => decide (t = topic)

theorem newly_filter (h : Filled calls filled) (topic : String) :
    newly (calls.filter (·.topic = topic)) (filled.filter (·.topic = topic)) =
      (newly calls filled).filter (·.topic = topic) := by
  induction h with
  | nil => rfl
  | @cons c c' _ _ hc _ ih =>
    have ht : c'.topic = c.topic := congrArg (·.1) hc.1
    rw [newly, List.filter_cons, List.filter_cons, ht]
    by_cases hs : c.topic = topic
    · simp only [hs, decide_true, if_true, newly]
      split
      · rw [List.filter_cons_of_pos (by rw [ht, hs, decide_eq_true rfl]), ih]
      · exact ih
    · simp only [hs, decide_false, Bool.false_eq_true, if_false]
      split
      · rw [List.filter_cons_of_neg (by rw [ht]; simpa using hs), ih]
      · exact ih

theorem call_ext {c c' : Call} (request : c'.request = c.request) (reply : c'.reply = c.reply) :
    c' = c := by
  obtain ⟨topic, action, r⟩ := c
  obtain ⟨topic', action', r'⟩ := c'
  obtain ⟨rfl, rfl⟩ := Prod.mk.inj request
  cases reply
  rfl

theorem requests (h : Filled calls filled) :
    filled.map Call.request = calls.map Call.request := by
  induction h with
  | nil => rfl
  | cons hc _ ih => rw [List.map_cons, List.map_cons, hc.1, ih]

theorem same {filled' : List Call} (h : Filled calls filled) (h' : Filled calls filled')
    (replies : ∀ n : Nat, (filled'[n]?).bind Call.reply = (filled[n]?).bind Call.reply) :
    filled' = filled := by
  induction h generalizing filled' with
  | nil =>
    cases h'
    rfl
  | @cons c c₁ _ _ hc _ ih =>
    cases h' with
    | @cons _ c₂ _ _ hc' h' =>
      have hreply : c₂.reply = c₁.reply := replies 0
      rw [call_ext (hc'.1.trans hc.1.symm) hreply, ih h' fun n => replies (n + 1)]

end Filled

/-- Calls in the same order are the same if those on each topic are. -/
theorem eq_of_requests {calls calls' : List Call}
    (requests : calls'.map Call.request = calls.map Call.request)
    (on : ∀ topic, calls'.filter (·.topic = topic) = calls.filter (·.topic = topic)) :
    calls' = calls := by
  induction calls generalizing calls' with
  | nil => exact List.map_eq_nil_iff.1 requests
  | cons c rest ih =>
    obtain ⟨c', rest', rfl, request, same⟩ := List.map_eq_cons_iff.1 requests
    have ht : c'.topic = c.topic := congrArg (·.1) request
    have first := on c.topic
    rw [List.filter_cons_of_pos (by simp [ht]), List.filter_cons_of_pos (by simp)] at first
    obtain ⟨rfl, first⟩ := List.cons.inj first
    refine congrArg (c' :: ·) (ih same fun topic => ?_)
    by_cases hc : c'.topic = topic
    · rw [← hc]
      exact first
    · have others := on topic
      rwa [List.filter_cons_of_neg (by simpa using hc),
        List.filter_cons_of_neg (by simpa using hc)] at others

theorem filter_far (calls : List Call) (far : String → Bool) (topic : String) :
    (calls.filter (far ·.topic)).filter (·.topic = topic) =
      if far topic then calls.filter (·.topic = topic) else [] := by
  rw [List.filter_filter]
  split
  case isTrue on =>
    refine List.filter_congr fun c _ => ?_
    by_cases hc : c.topic = topic <;> simp [hc, on]
  case isFalse off =>
    rw [List.filter_eq_nil_iff]
    intro c _ hc
    rw [Bool.and_eq_true, decide_eq_true_eq] at hc
    exact off (hc.1 ▸ hc.2)

namespace Answers

theorem refl (P : String → Prop) (o : Overlay) : Answers P o o := by
  refine ⟨fun _ _ _ => rfl, .refl _, ?_⟩
  rw [newly_self, List.foldl_nil]

theorem callsOn (h : Answers P o p) (topic : String) : Filled (o.callsOn topic) (p.callsOn topic) :=
  h.filled.filter topic

theorem endpoint? (h : Answers P o p) (topic : String) :
    p.endpoint? topic =
      (newly (o.callsOn topic) (p.callsOn topic)).foldl afterCall (o.endpoint? topic) := by
  rw [Overlay.endpoint?, h.live, lookup_foldl_afterReply, ← h.filled.newly_filter]
  rfl

theorem kept (h : Answers P o p) {t : Ticket} {r : Reply} (hr : o.reply? t = some r) :
    p.reply? t = some r := by
  have hf := h.callsOn t.topic
  rw [reply?] at hr ⊢
  generalize o.callsOn t.topic = calls at hf hr
  generalize p.callsOn t.topic = filled at hf ⊢
  generalize t.number = n at hr ⊢
  induction hf generalizing n with
  | nil => cases hr
  | cons hc _ ih =>
    cases n with
    | zero => exact hc.2 r hr
    | succ n => exact ih n hr

/-- What is live follows from the calls, and their order was settled before. -/
theorem beyond_of_calls (h : Answers P o p) (h' : Answers P o' p') (beyond : Beyond P o o')
    (calls : ∀ topic, ¬ P topic → p'.callsOn topic = p.callsOn topic) : Beyond P p p' := by
  refine ⟨?_, ?_, ?_⟩
  · intro kind topic ht
    rw [h.rules kind topic ht, h'.rules kind topic ht]
    exact beyond.rules kind topic ht
  · intro far hf
    refine eq_of_requests ?_ fun topic => ?_
    · rw [(h'.filled.far far).requests, (h.filled.far far).requests, beyond.calls far hf]
    · rw [filter_far, filter_far]
      split
      case isTrue on => exact calls topic (hf topic on)
      case isFalse => rfl
  · intro topic ht
    rw [h.endpoint?, h'.endpoint?, beyond.callsOn ht, calls topic ht, beyond.live topic ht]

/-- Overlays that differ in nothing but the topics still do so when the other calls have had the
same replies. -/
theorem beyond (h : Answers P o p) (h' : Answers P o' p') (beyond : Beyond P o o')
    (same : ∀ t : Ticket, ¬ P t.topic → news o' p' t = news o p t) : Beyond P p p' := by
  refine h.beyond_of_calls h' beyond fun topic ht => ?_
  have hf' := h'.callsOn topic
  rw [beyond.callsOn ht] at hf'
  refine (h.callsOn topic).same hf' fun n => ?_
  change p'.reply? ⟨topic, n⟩ = p.reply? ⟨topic, n⟩
  have ht' : ¬ P (⟨topic, n⟩ : Ticket).topic := ht
  cases hr : o.reply? ⟨topic, n⟩ with
  | some r => rw [h.kept hr, h'.kept ((beyond.reply? ht').trans hr)]
  | none =>
    have hnews := same ⟨topic, n⟩ ht'
    rw [news, news, beyond.reply? ht', hr] at hnews
    exact hnews

end Answers

theorem answers_setRule (P : String → Prop) (o : Overlay) (kind : ActionKind) (near : P topic)
    (behaviour : Behaviour) (spares : behaviour = .answer (.reply .died) → kind = .publish) :
    Answers P o (o.setRule ⟨kind, some topic, behaviour, spares⟩) := by
  refine ⟨?_, .refl _, ?_⟩
  · intro kind' topic' ht
    have apart : some topic ≠ topic' := fun he => ht topic he.symm near
    rw [rule?, rule?, setRule, List.find?_cons_of_neg (by simpa using fun _ => apart)]
  · rw [setRule, newly_self, List.foldl_nil]

theorem filled_set {calls : List Call} {n : Nat} {c : Call} (hc : calls[n]? = some c)
    (held : c.reply = none) (r : Reply) :
    Filled calls (calls.set n (c.answered r)) ∧
      newly calls (calls.set n (c.answered r)) = [c.answered r] := by
  induction calls generalizing n with
  | nil => cases hc
  | cons d rest ih =>
    cases n with
    | zero =>
      rw [List.getElem?_cons_zero, Option.some.injEq] at hc
      subst hc
      refine ⟨.cons ⟨rfl, by simp [held]⟩ (Filled.refl rest), ?_⟩
      rw [List.set_cons_zero, newly, newly_self, held]
      rfl
    | succ n =>
      obtain ⟨filled, answered⟩ := ih hc
      refine ⟨.cons ⟨rfl, fun _ => id⟩ filled, ?_⟩
      rw [List.set_cons_succ, newly, answered]
      cases d.reply <;> rfl

theorem answers_answer (P : String → Prop) (o : Overlay) (n : Nat) (r : Reply) :
    Answers P o (o.answer n r) := by
  unfold answer
  split
  case h_1 => exact .refl P o
  case h_2 c hc =>
    split
    case isFalse => exact .refl P o
    case isTrue hr =>
      obtain ⟨filled, answered⟩ := filled_set hc hr.1 r
      exact ⟨fun _ _ _ => rfl, filled, by rw [answered]; rfl⟩

theorem filled_answer (r : Release) (most : Nat) (calls : List Call) :
    Filled calls (r.answer most calls).1 ∧
      newly calls (r.answer most calls).1 = (r.answer most calls).2 := by
  fun_induction r.answer most calls with
  | case1 => exact ⟨.nil, rfl⟩
  | case2 => exact ⟨Filled.refl _, newly_self _⟩
  | case3 most c rest hc c' rest' answered he ih =>
    rw [he] at ih
    simp only [Release.concerns, Bool.and_eq_true, Option.isNone_iff_eq_none] at hc
    refine ⟨.cons ⟨rfl, ?_⟩ ih.1, ?_⟩
    · simp [hc.1.1]
    · rw [newly, hc.1.1, ih.2]
      rfl
  | case4 most c rest hc rest' answered he ih =>
    rw [he] at ih
    refine ⟨.cons ⟨rfl, fun _ => id⟩ ih.1, ?_⟩
    rw [newly, ih.2]
    cases c.reply <;> rfl

theorem answers_release (P : String → Prop) (o : Overlay) (r : Release) :
    Answers P o (o.release r).2 := by
  obtain ⟨filled, newly⟩ := filled_answer r (r.most.getD o.calls.length) o.calls
  exact ⟨fun _ _ _ => rfl, filled, congrArg (·.foldl afterReply o.live) newly.symm⟩

/-- Nothing is heard of where no call has been answered. -/
theorem news_of_callsOn {t : Ticket} (h : p.callsOn t.topic = o.callsOn t.topic) :
    news o p t = none := by
  have hr : p.reply? t = o.reply? t := by rw [reply?, reply?, h]
  rw [news, hr]
  cases o.reply? t <;> rfl

end Answers

section Releases

variable {r : Release}

theorem Release.concerns_topic {c : Call} (hc : r.concerns c = true) {T : String}
    (on : r.topic = some T) : c.topic = T := by
  simp only [Release.concerns, on, Option.all_some, Bool.and_eq_true, decide_eq_true_eq] at hc
  exact hc.2.symm

theorem callsOn_release_ne (o : Overlay) {T : String} (on : r.topic = some T) (ht : topic ≠ T) :
    (o.release r).2.callsOn topic = o.callsOn topic := by
  have answer (most : Nat) (calls : List Call) :
      (r.answer most calls).1.filter (·.topic = topic) = calls.filter (·.topic = topic) := by
    fun_induction r.answer most calls with
    | case1 => rfl
    | case2 => rfl
    | case3 most c rest hc c' rest' answered he ih =>
      rw [he] at ih
      have apart : c.topic ≠ topic := (Release.concerns_topic hc on).trans_ne ht.symm
      rw [List.filter_cons_of_neg (by simpa [c'] using apart),
        List.filter_cons_of_neg (by simpa using apart)]
      exact ih
    | case4 most c rest hc rest' answered he ih =>
      rw [he] at ih
      dsimp only at ih
      rw [List.filter_cons, List.filter_cons, ih]
  exact answer _ o.calls

theorem callsOn_release_some (o : Overlay) {k : Nat} (most : r.most = some k)
    (on : r.topic = some topic) :
    (o.release r).2.callsOn topic = (r.answer k (o.callsOn topic)).1 := by
  have answer (k : Nat) (calls : List Call) :
      (r.answer k calls).1.filter (·.topic = topic) =
        (r.answer k (calls.filter (·.topic = topic))).1 := by
    fun_induction r.answer k calls with
    | case1 => rfl
    | case2 calls => cases calls.filter (·.topic = topic) <;> rfl
    | case3 most c rest hc c' rest' answered he ih =>
      rw [he] at ih
      have ht := Release.concerns_topic hc on
      rw [List.filter_cons_of_pos (by simpa [c'] using ht),
        List.filter_cons_of_pos (by simpa using ht), ih, Release.answer, if_pos hc]
    | case4 most c rest hc rest' answered he ih =>
      rw [he] at ih
      dsimp only at ih
      rw [List.filter_cons, List.filter_cons]
      split
      · rw [ih, Release.answer, if_neg hc]
      · exact ih
  rw [release, most]
  exact answer k o.calls

theorem callsOn_release_none (o : Overlay) (most : r.most = none) (topic : String) :
    (o.release r).2.callsOn topic =
      (o.callsOn topic).map fun c => if r.concerns c then c.answered (r.outcome.on c.topic) else c := by
  have answer (k : Nat) (calls : List Call) (hk : calls.length ≤ k) :
      (r.answer k calls).1 =
        calls.map fun c => if r.concerns c then c.answered (r.outcome.on c.topic) else c := by
    fun_induction r.answer k calls with
    | case1 => rfl
    | case2 calls =>
      rw [List.eq_nil_of_length_eq_zero (Nat.le_zero.1 hk)]
      rfl
    | case3 most c rest hc c' rest' answered he ih =>
      rw [he] at ih
      rw [List.map_cons, if_pos hc, ← ih (Nat.le_of_succ_le_succ hk)]
      rfl
    | case4 most c rest hc rest' answered he ih =>
      rw [he] at ih
      rw [List.length_cons] at hk
      rw [List.map_cons, if_neg hc, ← ih (by omega)]
  rw [callsOn, callsOn, release, most, Option.getD_none]
  dsimp only
  rw [answer _ _ (Nat.le_refl _), List.filter_map]
  refine congrArg (List.map _) (List.filter_congr fun c _ => ?_)
  dsimp only [Function.comp_apply]
  split <;> rfl

/-- Whether the calls that the release answers on a topic are the same whatever is held on others. -/
def Release.isEven (r : Release) : Bool := r.most.isNone || r.topic.isSome

theorem Beyond.release (h : Beyond P o o') (even : r.isEven = true) :
    Beyond P (o.release r).2 (o'.release r).2 := by
  refine (answers_release P o r).beyond_of_calls (answers_release P o' r) h fun topic ht => ?_
  have calls := h.callsOn ht
  cases most : r.most with
  | none => rw [callsOn_release_none o most, callsOn_release_none o' most, calls]
  | some k =>
    obtain ⟨T, on⟩ := Option.isSome_iff_exists.1 (by simpa [Release.isEven, most] using even)
    by_cases hT : topic = T
    · subst hT
      rw [callsOn_release_some o most on, callsOn_release_some o' most on, calls]
    · rw [callsOn_release_ne o on hT, callsOn_release_ne o' on hT, calls]

end Releases

end BeaconGossip.Overlay
