import BeaconGossip.Proofs.Channel.Invariant

namespace BeaconGossip.Channel

open Overlay

/-- What happens to a channel in one go when the turns of its tasks are taken apart. A task lets go of
the requests between reading the newest one and making its call, so others may come in between. -/
inductive Section where
  | request (wanted : Bool)
  | publish (payload : Bytes)
  | read
  | act
  | hear
  /-- Anything that others do, and all replies of the overlay. -/
  | aside

/-- A channel, with what its task has read if it is yet to act on that. -/
structure Midway where
  channel : Channel
  reading : Option Reading

inductive Sectioned : Midway → Hub → Section → Midway → Hub → Prop where
  | request (c : Channel) (r : Option Reading) (h : Hub) (wanted : Bool) :
    Sectioned ⟨c, r⟩ h (.request wanted) ⟨c.request wanted, r⟩ h
  | publish (c : Channel) (r : Option Reading) (h : Hub) (payload : Bytes) :
    Sectioned ⟨c, r⟩ h (.publish payload) ⟨c, r⟩ (c.publish payload h).2
  | read {c c' : Channel} {r : Reading} (h : Hub) (starts : c.read = some (c', r)) :
    Sectioned ⟨c, none⟩ h .read ⟨c', some r⟩ h
  | act (c : Channel) (r : Reading) (h : Hub) :
    Sectioned ⟨c, some r⟩ h .act ⟨(c.act r h).1, none⟩ (c.act r h).2
  | hear (c : Channel) (h : Hub) : Sectioned ⟨c, none⟩ h .hear ⟨(c.hear h).1, none⟩ (c.hear h).2
  | aside (c : Channel) (r : Option Reading) {h h' : Hub}
    (passes : h.overlay.Passes c.topic h'.overlay) : Sectioned ⟨c, r⟩ h .aside ⟨c, r⟩ h'

/-- What a channel comes to, section by section, on a topic that was not in use. -/
inductive SectionRun (endpoint : Endpoint) (limit : Nat) : List Section → Midway → Hub → Prop where
  | fresh {h : Hub} (untouched : h.overlay.Untouched endpoint.topic) :
    SectionRun endpoint limit [] ⟨.fresh endpoint limit, none⟩ h
  | step {ss : List Section} {s : Section} {m m' : Midway} {h h' : Hub}
    (run : SectionRun endpoint limit ss m h) (next : Sectioned m h s m' h') :
    SectionRun endpoint limit (ss ++ [s]) m' h'

namespace Section

/-- The requests among the sections, the newest last. -/
def requests (ss : List Section) : List Bool :=
  ss.filterMap fun
    | .request wanted => some wanted
    | _ => none

def ofTask : Section → Bool
  | .read | .act | .hear => true
  | _ => false

/-- The newest request when a task read it that has not gone on since. -/
def LastRead (ss : List Section) (wanted : Bool) : Prop :=
  ∃ before between, ss = before ++ .read :: between ∧ (∀ s ∈ between, s.ofTask = false) ∧
    (requests before).getLast? = some wanted

theorem requests_append (ss ss' : List Section) :
    requests (ss ++ ss') = requests ss ++ requests ss' := List.filterMap_append

theorem LastRead.snoc {ss : List Section} {s : Section} {wanted : Bool} (h : LastRead ss wanted)
    (others : s.ofTask = false) : LastRead (ss ++ [s]) wanted := by
  obtain ⟨before, between, rfl, quiet, newest⟩ := h
  refine ⟨before, between ++ [s], by simp, ?_, newest⟩
  intro x hx
  rw [List.mem_append, List.mem_singleton] at hx
  rcases hx with hx | rfl
  · exact quiet x hx
  · exact others

end Section

namespace Midway

/-- A task that has read a request has left the channel as it was, apart from having started. -/
def Sound (m : Midway) (calls : List Call) (live : Option Endpoint) : Prop :=
  match m.reading with
  | none => m.channel.Sound calls live
  | some r => m.channel.unread.Sound calls live ∧ m.channel.Started r

end Midway

theorem Started.request {c : Channel} {r : Reading} (started : c.Started r) (wanted : Bool) :
    (c.request wanted).Started r := by
  have hrg := started.generation_le
  constructor
  · exact started.rest
  · exact started.settled_le
  · exact Nat.le_succ_of_le hrg
  · intro same
    simp only [Channel.request] at same
    omega
  · intro empty
    simp [Channel.request] at empty

variable {endpoint : Endpoint} {limit : Nat} {ss : List Section} {s : Section} {m m' : Midway}
variable {h h' : Hub}

theorem Sectioned.endpoint_eq (next : Sectioned m h s m' h') :
    m'.channel.endpoint = m.channel.endpoint := by
  cases next with
  | request => rfl
  | publish => rfl
  | read _ starts =>
    obtain ⟨queued, -, -, rfl, -⟩ := read_eq_some starts
    rfl
  | act c r => exact act_endpoint c r h
  | hear c => exact hear_endpoint c h
  | aside => rfl

theorem Sectioned.sound (next : Sectioned m h s m' h')
    (hs : m.Sound (h.overlay.callsOn m.channel.topic) (h.overlay.endpoint? m.channel.topic)) :
    m'.Sound (h'.overlay.callsOn m'.channel.topic) (h'.overlay.endpoint? m'.channel.topic) := by
  have topic : m'.channel.topic = m.channel.topic := congrArg Endpoint.topic next.endpoint_eq
  rw [topic]
  -- What others do leaves a channel sound, and the channel as if its task had not started as well.
  have others (c : Channel) (r : Option Reading) {h h' : Hub}
      (passes : h.overlay.Passes c.topic h'.overlay)
      (hs : Midway.Sound ⟨c, r⟩ (h.overlay.callsOn c.topic) (h.overlay.endpoint? c.topic)) :
      Midway.Sound ⟨c, r⟩ (h'.overlay.callsOn c.topic) (h'.overlay.endpoint? c.topic) := by
    cases r with
    | none => exact Channel.Sound.aside hs passes
    | some r => exact ⟨Channel.Sound.aside (c := c.unread) hs.1 passes, hs.2⟩
  cases next with
  | request c r _ wanted =>
    cases r with
    | none => exact Channel.Sound.request hs wanted
    | some r => exact ⟨hs.1.request wanted, hs.2.request wanted⟩
  | publish c r _ payload => exact others c r (publish_overlay c payload h c.topic) hs
  | read _ starts =>
    obtain ⟨unread, started⟩ := Channel.Sound.read hs starts
    exact ⟨unread, started⟩
  | act c r => exact Channel.Sound.act hs.1 hs.2
  | hear c => exact Channel.Sound.hear hs
  | aside c r passes => exact others c r passes hs

theorem SectionRun.sound (run : SectionRun endpoint limit ss m h) :
    m.Sound (h.overlay.callsOn m.channel.topic) (h.overlay.endpoint? m.channel.topic) := by
  induction run with
  | @fresh h untouched =>
    have hs : (Channel.fresh endpoint limit).Sound (h.overlay.callsOn endpoint.topic) none :=
      Channel.Sound.fresh limit untouched.1
    rw [← untouched.2] at hs
    exact hs
  | step _ next ih => exact next.sound ih

theorem hear_overlay (c : Channel) (h : Hub) : (c.hear h).2.overlay = h.overlay := by
  cases hch : c.change with
  | none => rw [hear_idle hch]
  | some ch =>
    rw [hear_started hch]
    split <;> rfl

theorem act_requests (c : Channel) (r : Reading) (h : Hub) :
    (c.act r h).1.wanted = c.wanted ∧ (c.act r h).1.generation = c.generation := by
  unfold act
  split <;> exact ⟨rfl, rfl⟩

theorem hear_requests (c : Channel) (h : Hub) :
    (c.hear h).1.wanted = c.wanted ∧ (c.hear h).1.generation = c.generation := by
  cases hch : c.change with
  | none =>
    rw [hear_idle hch]
    exact ⟨rfl, rfl⟩
  | some ch =>
    rw [hear_started hch]
    split <;> exact ⟨rfl, rfl⟩

/-- The generation is the number of requests, and what is wanted is the newest of them. -/
theorem SectionRun.requests_eq (run : SectionRun endpoint limit ss m h) :
    m.channel.generation = (Section.requests ss).length ∧
      m.channel.wanted = (Section.requests ss).getLast?.getD false := by
  induction run with
  | fresh => exact ⟨rfl, rfl⟩
  | step _ next ih =>
    rw [Section.requests_append]
    cases next with
    | request c r h wanted =>
      constructor
      · rw [List.length_append]
        exact congrArg (· + 1) ih.1
      · simp [Channel.request, Section.requests]
    | publish => simpa [Section.requests] using ih
    | read _ starts =>
      obtain ⟨queued, -, -, rfl, -⟩ := read_eq_some starts
      simpa [Section.requests] using ih
    | act c r h => simpa [Section.requests, act_requests] using ih
    | hear c h => simpa [Section.requests, hear_requests] using ih
    | aside => simpa [Section.requests] using ih

theorem SectionRun.newest (run : SectionRun endpoint limit ss m h) (pos : 0 < m.channel.generation) :
    (Section.requests ss).getLast? = some m.channel.wanted := by
  obtain ⟨length, wanted⟩ := run.requests_eq
  cases last : (Section.requests ss).getLast? with
  | none =>
    rw [List.getLast?_eq_none_iff] at last
    rw [last] at length
    simp [length] at pos
  | some w => rw [wanted, last, Option.getD_some]

/-- What a task is yet to act on was the newest request when the task read it. -/
theorem SectionRun.lastRead (run : SectionRun endpoint limit ss m h) {r : Reading}
    (reading : m.reading = some r) : Section.LastRead ss r.wanted := by
  induction run with
  | fresh => cases reading
  | @step ss s m m' h h' run next ih =>
    cases next with
    | request => exact (ih reading).snoc rfl
    | publish => exact (ih reading).snoc rfl
    | @read c c' r' _ starts =>
      cases reading
      have sound : c.Sound _ _ := run.sound
      obtain ⟨queued, -, next, -, rfl⟩ := read_eq_some starts
      have busy := sound.calls_le
      have newest := run.newest (by dsimp only; omega)
      exact ⟨ss, [], rfl, by simp, newest⟩
    | act => cases reading
    | hear => cases reading
    | aside => exact (ih reading).snoc rfl

theorem act_spared {c : Channel} {r : Reading} (spared : Spared (h.overlay.callsOn c.topic)) :
    Spared ((c.act r h).2.overlay.callsOn c.topic) := by
  by_cases differ : r.wanted = c.confirmed
  · rw [act_agreed differ]
    exact spared
  · rw [act_call differ]
    dsimp only
    rw [callsOn_call, if_pos rfl]
    apply spared.snoc
    intro _
    exact made_spares _ _ (c.endpoint.switch_kind r.wanted)

/-- No task that joins or leaves the topic is ever torn down. -/
theorem SectionRun.spared (run : SectionRun endpoint limit ss m h) :
    Spared (h.overlay.callsOn m.channel.topic) := by
  induction run with
  | @fresh h untouched =>
    have none : changesIn (h.overlay.callsOn (Channel.fresh endpoint limit).topic) = [] := untouched.1
    intro s hs
    rw [none] at hs
    cases hs
  | @step _ _ m m' h h' _ next ih =>
    have topic : m'.channel.topic = m.channel.topic := congrArg Endpoint.topic next.endpoint_eq
    rw [topic]
    cases next with
    | request => exact ih
    | publish c _ _ payload => exact Spared.passes ih (publish_overlay c payload h c.topic)
    | read => exact ih
    | act c r => exact act_spared ih
    | hear c h =>
      rw [hear_overlay]
      exact ih
    | aside c _ passes => exact Spared.passes ih passes

/-- The turns of a run are sections that nothing has come between. -/
theorem Run.sectioned {es : List Event} {c : Channel} (run : Run endpoint limit es c h) :
    ∃ ss, SectionRun endpoint limit ss ⟨c, none⟩ h ∧ Section.requests ss = requests es := by
  induction run with
  | fresh untouched => exact ⟨[], .fresh untouched, rfl⟩
  | @step es e c c' h h' _ step ih =>
    obtain ⟨ss, run, same⟩ := ih
    have added {new : List Section} {m : Midway} {h : Hub}
        (run : SectionRun endpoint limit (ss ++ new) m h) (hn : Section.requests new = requests [e]) :
        ∃ ss, SectionRun endpoint limit ss m h ∧ Section.requests ss = requests (es ++ [e]) := by
      refine ⟨ss ++ new, run, ?_⟩
      rw [Section.requests_append, same, hn, requests_append]
    cases step with
    | request wanted => exact added (run.step (.request ..)) rfl
    | publish payload => exact added (run.step (.publish ..)) rfl
    | turn =>
      unfold Channel.poll
      split
      case h_1 => exact added (run.step (.hear c h)) rfl
      case h_2 starts =>
        have acted := (run.step (.read h starts)).step (.act _ _ h)
        have heard := acted.step (.hear _ _)
        rw [List.append_assoc, List.append_assoc] at heard
        exact added heard rfl
    | aside passes => exact added (run.step (.aside _ none passes)) rfl

end BeaconGossip.Channel
