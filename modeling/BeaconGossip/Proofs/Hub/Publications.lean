import BeaconGossip.Proofs.Node.Ledger
import BeaconGossip.Proofs.Overlay.Names

namespace BeaconGossip

open Overlay (Action ActionKind Adds Names Reply Ticket)
open Scenario (publishCalls)

namespace Entry

/-- The class, topic and payload of what a channel is told to publish and takes. -/
def accepted? : Entry → Option (MessageClass × String × Bytes)
  | offer _ => none
  | publish channel payload =>
    if channel.limit < payload.length then none else some (channel.cls, channel.topic, payload)

/-- A channel of the class is told to publish. -/
def Publishes (c : MessageClass) : Entry → Bool
  | offer _ => false
  | publish channel _ => channel.cls = c

/-- A channel of the class is told to publish what is too long. -/
def Oversize (c : MessageClass) : Entry → Bool
  | offer _ => false
  | publish channel payload => channel.cls = c ∧ channel.limit < payload.length

end Entry

/-- The payloads that channels have taken, in order. -/
def accepted (log : List Entry) : List (MessageClass × String × Bytes) :=
  log.filterMap Entry.accepted?

theorem accepted_append (log log' : List Entry) :
    accepted (log ++ log') = accepted log ++ accepted log' :=
  List.filterMap_append

theorem publishes_countP (log : List Entry) (c : MessageClass) :
    log.countP (·.Publishes c) = log.countP (·.Oversize c) + (accepted log).countP (·.1 = c) := by
  induction log with
  | nil => rfl
  | cons entry rest ih =>
    rw [accepted, List.filterMap_cons, List.countP_cons, List.countP_cons, ih, accepted]
    cases entry with
    | offer cls => simp [Entry.Publishes, Entry.Oversize, Entry.accepted?]
    | publish channel payload =>
      by_cases hc : channel.cls = c <;> by_cases hl : channel.limit < payload.length <;>
        simp [Entry.Publishes, Entry.Oversize, Entry.accepted?, hc, hl] <;> omega

/-- Under which class and on which topic the overlay has been called, and with what. -/
def Publication.made (o : Overlay) (p : Publication) : MessageClass × String × Option Action :=
  (p.cls, p.ticket.topic, o.action? p.ticket)

def Overlay.Reply.isOk (r : Reply) : Bool := decide (r = .ok)

def Overlay.Reply.isRefused : Reply → Bool
  | .refused _ => true
  | _ => false

def Overlay.Reply.isDied (r : Reply) : Bool := decide (r = .died)

/-- The publish is of the class, and its task has reported such a reply. -/
def Publication.Reports (o : Overlay) (c : MessageClass) (such : Reply → Bool) (p : Publication) :
    Bool :=
  decide (p.cls = c) && (o.reply? p.ticket).any such && p.reported

namespace Hub

/-- The number of publishes of the class whose task has reported such a reply. -/
def reportedAs (h : Hub) (c : MessageClass) (such : Reply → Bool) : Nat :=
  h.publications.countP (Publication.Reports h.overlay c such)

/-- The number of publishes of the class whose task has not reported. -/
def unreported (h : Hub) (c : MessageClass) : Nat :=
  h.publications.countP fun p => p.cls = c ∧ p.reported = false

/-- The counters of publishes are those of what has been entered. -/
structure Booked (h : Hub) (log : List Entry) : Prop where
  requests : ∀ c, h.registry.value (.publishRequests c) = (log.count (.offer c) : Nat)
  published : ∀ c, h.registry.value (.published c) = (h.reportedAs c Reply.isOk : Nat)
  failures : ∀ c, h.registry.value (.publishFailures c) =
    (log.countP (·.Oversize c) + h.reportedAs c Reply.isRefused : Nat)
  made : h.publications.map (Publication.made h.overlay) =
    (accepted log).map fun (cls, topic, payload) => (cls, topic, some (.publish payload))
  calls : publishCalls h.overlay.calls = (accepted log).map (·.2)
  names : Names (· = .publish) h.overlay (h.publications.map (·.ticket))
  replied : ∀ p ∈ h.publications, p.reported = true → h.overlay.reply? p.ticket ≠ none

variable {h h' : Hub} {log : List Entry}

theorem reportedAs_congr {K : ActionKind → Prop} (adds : Adds K h.overlay h'.overlay)
    (replied : ∀ p ∈ h.publications, p.reported = true → h.overlay.reply? p.ticket ≠ none)
    {more : List Publication} (publications : h'.publications = h.publications ++ more)
    (fresh : ∀ p ∈ more, p.reported = false) (c : MessageClass) (such : Reply → Bool) :
    h'.reportedAs c such = h.reportedAs c such := by
  have none : more.countP (Publication.Reports h'.overlay c such) = 0 := by
    refine List.countP_eq_zero.2 fun p hp => ?_
    simp [Publication.Reports, fresh p hp]
  rw [reportedAs, reportedAs, publications, List.countP_append, none, Nat.add_zero]
  refine List.countP_congr fun p hp => ?_
  cases hr : p.reported with
  | false => simp [Publication.Reports, hr]
  | true => rw [Publication.Reports, Publication.Reports, adds.reply?_eq (replied p hp hr)]

theorem replied_of_adds {K : ActionKind → Prop} (adds : Adds K h.overlay h'.overlay)
    (replied : ∀ p ∈ h.publications, p.reported = true → h.overlay.reply? p.ticket ≠ none) :
    ∀ p ∈ h.publications, p.reported = true → h'.overlay.reply? p.ticket ≠ none := by
  intro p hp hr
  rw [adds.reply?_eq (replied p hp hr)]
  exact replied p hp hr

theorem made_congr {K : ActionKind → Prop} (adds : Adds K h.overlay h'.overlay)
    (names : Names (· = .publish) h.overlay (h.publications.map (·.ticket))) :
    h.publications.map (Publication.made h'.overlay) =
      h.publications.map (Publication.made h.overlay) := by
  refine List.map_congr_left fun p hp => ?_
  rw [Publication.made, adds.action?_eq (names.called (List.mem_map_of_mem hp)),
    ← Publication.made]

/-- The hub once the channel has handed a payload to the overlay. -/
def taking (h : Hub) (channel : Channel) (payload : Bytes) : Hub :=
  { h with
    overlay := (h.overlay.call channel.topic (.publish payload)).1
    publications := h.publications ++
      [⟨(h.overlay.call channel.topic (.publish payload)).2, channel.cls, false⟩] }

theorem enter_publish (h : Hub) (channel : Channel) (payload : Bytes) :
    h.enter (.publish channel payload) =
      if channel.limit < payload.length then h.count (.publishFailures channel.cls)
      else h.taking channel payload := by
  rw [enter, Channel.publish]
  split <;> rfl

namespace Booked

theorem carry (booked : h.Booked log) (publications : h'.publications = h.publications)
    (adds : Adds (· ≠ .publish) h.overlay h'.overlay)
    (calls : publishCalls h'.overlay.calls = publishCalls h.overlay.calls)
    (moves : h.registry.Moves (·.isPublishing = false) h'.registry) : h'.Booked log := by
  have reported := reportedAs_congr adds booked.replied
    (publications.trans (List.append_nil _).symm) nofun
  refine ⟨fun c => ?_, fun c => ?_, fun c => ?_, ?_, calls.trans booked.calls, ?_, ?_⟩
  · rw [moves.value _ Bool.noConfusion, booked.requests]
  · rw [moves.value _ Bool.noConfusion, reported, booked.published]
  · rw [moves.value _ Bool.noConfusion, reported, booked.failures]
  · rw [publications, made_congr adds booked.names, booked.made]
  · rw [publications]
    exact booked.names.adds adds fun _ other => other
  · rw [publications]
    exact replied_of_adds adds booked.replied

theorem of_agrees (booked : h.Booked log) (agrees : h.Agrees h') : h'.Booked log :=
  booked.carry agrees.publications (.of_eq _ agrees.overlay) (by rw [agrees.overlay])
    (agrees.registry.mono (by rintro f rfl; rfl))

theorem offer (booked : h.Booked log) (cls : MessageClass) :
    (h.count (.publishRequests cls)).Booked (log ++ [.offer cls]) := by
  have oversize (c : MessageClass) :
      (log ++ [Entry.offer cls]).countP (Entry.Oversize c) = log.countP (Entry.Oversize c) := by
    rw [List.countP_append]
    exact Nat.add_zero _
  have accepted : accepted (log ++ [.offer cls]) = accepted log :=
    (accepted_append ..).trans (List.append_nil _)
  refine ⟨fun c => ?_, fun c => ?_, fun c => ?_, ?_, ?_, booked.names, booked.replied⟩
  · refine (h.registry.value_increment_class .publishRequests cls c).trans ?_
    have before : h.registry.value ⟨.publishRequests, [c.name]⟩ = _ := booked.requests c
    rw [before, List.count_append, List.count_singleton]
    by_cases hc : cls = c <;> simp [hc]
  · exact (h.registry.value_increment_of_ne Registry.Family.noConfusion).trans (booked.published c)
  · rw [oversize]
    exact (h.registry.value_increment_of_ne Registry.Family.noConfusion).trans (booked.failures c)
  · rw [accepted]
    exact booked.made
  · rw [accepted]
    exact booked.calls

theorem refuse (booked : h.Booked log) {channel : Channel} {payload : Bytes}
    (long : channel.limit < payload.length) :
    (h.count (.publishFailures channel.cls)).Booked (log ++ [.publish channel payload]) := by
  have accepted : accepted (log ++ [.publish channel payload]) = accepted log := by
    rw [accepted_append]
    simp [accepted, Entry.accepted?, long]
  refine ⟨fun c => ?_, fun c => ?_, fun c => ?_, ?_, ?_, booked.names, booked.replied⟩
  · rw [List.count_append]
    exact (h.registry.value_increment_of_ne Registry.Family.noConfusion).trans (booked.requests c)
  · exact (h.registry.value_increment_of_ne Registry.Family.noConfusion).trans (booked.published c)
  · refine (h.registry.value_increment_class .publishFailures channel.cls c).trans ?_
    have before : h.registry.value ⟨.publishFailures, [c.name]⟩ = _ := booked.failures c
    have same : (h.count (.publishFailures channel.cls)).reportedAs c Reply.isRefused =
      h.reportedAs c Reply.isRefused := rfl
    rw [before, same, List.countP_append]
    by_cases hc : channel.cls = c
    · simp [Entry.Oversize, hc, long]
      omega
    · simp [Entry.Oversize, hc]
  · rw [accepted]
    exact booked.made
  · rw [accepted]
    exact booked.calls

theorem take (booked : h.Booked log) {channel : Channel} {payload : Bytes}
    (short : ¬ channel.limit < payload.length) :
    (h.taking channel payload).Booked (log ++ [.publish channel payload]) := by
  have adds : Adds (fun _ => True) h.overlay (h.taking channel payload).overlay :=
    Overlay.adds_call h.overlay channel.topic trivial
  have reported (c : MessageClass) (such : Reply → Bool) :
      (h.taking channel payload).reportedAs c such = h.reportedAs c such :=
    reportedAs_congr adds booked.replied rfl (by simp) c such
  have oversize (c : MessageClass) :
      (log ++ [Entry.publish channel payload]).countP (Entry.Oversize c) =
        log.countP (Entry.Oversize c) := by
    rw [List.countP_append]
    simp [Entry.Oversize, short]
  have accepted : accepted (log ++ [.publish channel payload]) =
      accepted log ++ [(channel.cls, channel.topic, payload)] := by
    rw [accepted_append]
    simp [accepted, Entry.accepted?, short]
  refine ⟨fun c => ?_, fun c => ?_, fun c => ?_, ?_, ?_, ?_, ?_⟩
  · rw [List.count_append]
    exact booked.requests c
  · rw [reported]
    exact booked.published c
  · rw [reported, oversize]
    exact booked.failures c
  · rw [accepted, List.map_append, ← booked.made, ← made_congr adds booked.names]
    have sent := h.overlay.action?_call channel.topic (.publish payload)
    exact List.map_append.trans
      (congrArg (fun a => _ ++ [(channel.cls, channel.topic, a)]) sent)
  · rw [accepted, List.map_append, ← booked.calls]
    exact Overlay.publishCalls_call ..
  · rw [taking, List.map_append]
    exact booked.names.call channel.topic rfl
  · intro p hp hr
    rcases List.mem_append.1 hp with hp | hp
    · exact replied_of_adds adds booked.replied p hp hr
    · rw [List.mem_singleton.1 hp] at hr
      cases hr

theorem enter (booked : h.Booked log) (entry : Entry) :
    (h.enter entry).Booked (log ++ [entry]) := by
  cases entry with
  | offer cls => exact booked.offer cls
  | publish channel payload =>
    rw [enter_publish]
    split
    case isTrue long => exact booked.refuse long
    case isFalse short => exact booked.take short

theorem enterAll (booked : h.Booked log) (entries : List Entry) :
    (h.enterAll entries).Booked (log ++ entries) := by
  induction entries generalizing h log with
  | nil =>
    rw [List.append_nil]
    exact booked
  | cons entry rest ih =>
    rw [List.append_cons]
    exact ih (booked.enter entry)

end Booked

/-- The hub once the publish task of the given number has reported its reply. -/
def reporting (h : Hub) (n : Nat) (p : Publication) (r : Reply) : Hub :=
  { h with
    registry := countReply h.registry p.cls r
    publications := h.publications.set n { p with reported := true } }

theorem reportAt_eq (h : Hub) (n : Nat) :
    h.reportAt n = h ∨ ∃ p r, h.publications[n]? = some p ∧ p.reported = false ∧
      h.overlay.reply? p.ticket = some r ∧ h.reportAt n = h.reporting n p r := by
  unfold reportAt
  cases hp : h.publications[n]? with
  | none => exact .inl rfl
  | some p =>
    dsimp only
    unfold reportOne
    split
    case h_1 r unreported reply => exact .inr ⟨p, r, rfl, unreported, reply, rfl⟩
    case h_2 =>
      left
      obtain ⟨hlt, rfl⟩ := List.getElem?_eq_some_iff.1 hp
      dsimp only
      rw [List.set_getElem_self hlt]

theorem reportedAs_reporting {n : Nat} {p : Publication} {r : Reply}
    (hp : h.publications[n]? = some p) (unreported : p.reported = false)
    (reply : h.overlay.reply? p.ticket = some r) (c : MessageClass) (such : Reply → Bool) :
    (h.reporting n p r).reportedAs c such =
      h.reportedAs c such + if p.cls = c ∧ such r then 1 else 0 := by
  obtain ⟨hlt, he⟩ := List.getElem?_eq_some_iff.1 hp
  have before : h.publications =
      h.publications.take n ++ p :: h.publications.drop (n + 1) := by
    rw [← he, List.getElem_cons_drop, List.take_append_drop]
  have after : (h.reporting n p r).publications =
      h.publications.take n ++ { p with reported := true } :: h.publications.drop (n + 1) := by
    rw [reporting, List.set_eq_take_append_cons_drop, if_pos hlt]
  have now : Publication.Reports h.overlay c such { p with reported := true } =
      decide (p.cls = c ∧ such r) := by
    simp [Publication.Reports, reply]
  have earlier : Publication.Reports h.overlay c such p = false := by
    simp [Publication.Reports, unreported]
  have total := congrArg (List.countP (Publication.Reports h.overlay c such)) before
  have overlay : (h.reporting n p r).overlay = h.overlay := rfl
  rw [reportedAs, after, overlay, reportedAs]
  simp only [List.countP_append, List.countP_cons, now, earlier, decide_eq_true_eq,
    Bool.false_eq_true, if_false] at total ⊢
  omega

theorem map_reporting {α : Type} {f : Publication → α} {n : Nat} {p : Publication}
    (hp : h.publications[n]? = some p) (same : f { p with reported := true } = f p) (r : Reply) :
    (h.reporting n p r).publications.map f = h.publications.map f := by
  have hn : (h.publications.map f)[n]? = some (f p) := by
    rw [List.getElem?_map, hp, Option.map_some]
  obtain ⟨hlt, he⟩ := List.getElem?_eq_some_iff.1 hn
  rw [reporting, List.map_set, same, ← he]
  exact List.set_getElem_self hlt

theorem value_countReply (r : Registry) (c c' : MessageClass) (reply : Reply) :
    (countReply r c reply).value (.publishRequests c') = r.value (.publishRequests c') ∧
      (countReply r c reply).value (.published c') =
        r.value (.published c') + (if c = c' ∧ reply.isOk then 1 else 0) ∧
      (countReply r c reply).value (.publishFailures c') =
        r.value (.publishFailures c') + (if c = c' ∧ reply.isRefused then 1 else 0) := by
  have published : (r.increment (.published c)).value (.published c') =
      r.value (.published c') + if c = c' then 1 else 0 := r.value_increment_class ..
  have failed : (r.increment (.publishFailures c)).value (.publishFailures c') =
      r.value (.publishFailures c') + if c = c' then 1 else 0 := r.value_increment_class ..
  have apart (s s' : Registry.Series) (h : s.family ≠ s'.family) :
      (r.increment s).value s' = r.value s' := r.value_increment_of_ne h
  cases reply with
  | ok =>
    refine ⟨apart _ _ Registry.Family.noConfusion, ?_, ?_⟩
    · simpa [countReply, Reply.isOk] using published
    · have other := apart (.published c) (.publishFailures c') Registry.Family.noConfusion
      simpa [countReply, Reply.isRefused] using other
  | refused e =>
    refine ⟨apart _ _ Registry.Family.noConfusion, ?_, ?_⟩
    · have other := apart (.publishFailures c) (.published c') Registry.Family.noConfusion
      simpa [countReply, Reply.isOk] using other
    · simpa [countReply, Reply.isRefused] using failed
  | died => simp [countReply, Reply.isOk, Reply.isRefused]

theorem Booked.reportAt (booked : h.Booked log) (n : Nat) : (h.reportAt n).Booked log := by
  rcases h.reportAt_eq n with same | ⟨p, r, hp, unreported, reply, he⟩
  · rw [same]
    exact booked
  · have counts := fun c => value_countReply h.registry p.cls c r
    have reported := reportedAs_reporting hp unreported reply
    rw [he]
    refine ⟨fun c => ?_, fun c => ?_, fun c => ?_, ?_, booked.calls, ?_, ?_⟩
    · exact (counts c).1.trans (booked.requests c)
    · refine (counts c).2.1.trans ?_
      rw [reported, booked.published]
      by_cases counted : p.cls = c ∧ r.isOk <;> simp [counted]
    · refine (counts c).2.2.trans ?_
      rw [reported, booked.failures]
      by_cases counted : p.cls = c ∧ r.isRefused
      · simp [counted]
        omega
      · simp [counted]
    · rw [map_reporting hp rfl]
      exact booked.made
    · rw [map_reporting hp rfl]
      exact booked.names
    · intro q hq hr
      rcases List.mem_or_eq_of_mem_set hq with hq | rfl
      · exact booked.replied q hq hr
      · exact reply.trans_ne (Option.some_ne_none r)

theorem Booked.report (booked : h.Booked log) : h.report.Booked log := by
  rw [report_eq]
  exact List.foldlRecOn (motive := fun h => Booked h log) _ _ booked fun _ so_far n _ =>
    so_far.reportAt n

/-- A publish is still to be reported, or has been reported with one of the replies. -/
theorem publications_countP {o : Overlay} {publications : List Publication}
    (replied : ∀ p ∈ publications, p.reported = true → o.reply? p.ticket ≠ none)
    (c : MessageClass) :
    publications.countP (·.cls = c) =
      (publications.countP fun p => p.cls = c ∧ p.reported = false) +
        publications.countP (Publication.Reports o c Reply.isOk) +
        publications.countP (Publication.Reports o c Reply.isRefused) +
        publications.countP (Publication.Reports o c Reply.isDied) := by
  induction publications with
  | nil => rfl
  | cons p rest ih =>
    rw [List.forall_mem_cons] at replied
    simp only [List.countP_cons, ih replied.2, Publication.Reports]
    by_cases hc : p.cls = c
    · by_cases hr : p.reported = true
      · obtain ⟨r, reply⟩ := Option.ne_none_iff_exists'.1 (replied.1 hr)
        cases r <;> simp [hc, hr, reply, Reply.isOk, Reply.isRefused, Reply.isDied] <;> omega
      · simp [hc, hr]
        omega
    · simp [hc]

/-- Every publish that a channel is told of fails at once, or is counted when its task reports, or
waits for that; or its task has died. -/
theorem Booked.balance (booked : h.Booked log) (c : MessageClass) :
    (log.countP (Entry.Publishes c) : Nat) =
      h.registry.value (.published c) + h.registry.value (.publishFailures c) +
        h.unreported c + h.reportedAs c Reply.isDied := by
  have taken : (accepted log).countP (·.1 = c) = h.publications.countP (·.cls = c) := by
    have made := congrArg (List.countP (·.1 = c)) booked.made
    rw [List.countP_map, List.countP_map] at made
    exact made.symm
  have publications := publications_countP booked.replied c
  have published := booked.published c
  have failures := booked.failures c
  rw [publishes_countP, taken, publications]
  simp only [reportedAs, unreported] at published failures ⊢
  omega

end Hub

end BeaconGossip
