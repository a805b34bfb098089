import BeaconGossip.Proofs.Message
import BeaconGossip.Proofs.Node.Ledger
import Mathlib.Data.List.Perm.Basic

namespace BeaconGossip

open Node (Delivery Interim Section)

namespace Hub

/-- No delivery shows in what has become of the hub. -/
structure Still (h h' : Hub) : Prop where
  arrivals : h'.arrivals = h.arrivals
  rejected : h'.rejected = h.rejected
  registry : h.registry.Moves (· ≠ .inbound) h'.registry

namespace Still

variable {h h' h'' : Hub}

theorem refl (h : Hub) : h.Still h := ⟨rfl, rfl, .refl _ _⟩

theorem trans (first : h.Still h') (next : h'.Still h'') : h.Still h'' :=
  ⟨next.arrivals.trans first.arrivals, next.rejected.trans first.rejected,
    first.registry.trans next.registry⟩

theorem inbound (still : h.Still h') (c : MessageClass) (v : Verdict) :
    h'.registry.value (.inbound c v) = h.registry.value (.inbound c v) :=
  still.registry.value _ (not_not_intro rfl)

end Still

theorem Agrees.still {h h' : Hub} (agrees : h.Agrees h') : h.Still h' :=
  ⟨agrees.arrivals, agrees.rejected, agrees.registry.mono (by rintro f rfl; decide)⟩

theorem still_of_publishing {h h' : Hub} (arrivals : h'.arrivals = h.arrivals)
    (rejected : h'.rejected = h.rejected)
    (moves : h.registry.Moves (·.isPublishing) h'.registry) : h.Still h' :=
  ⟨arrivals, rejected, moves.mono (by rintro _ publishing rfl; cases publishing)⟩

theorem still_enter (h : Hub) (entry : Entry) : h.Still (h.enter entry) := by
  refine still_of_publishing ?_ ?_ (h.moves_enter entry) <;>
  · cases entry with
    | offer cls => rfl
    | publish channel payload =>
      rw [enter, Channel.publish]
      split <;> rfl

theorem still_enterAll (h : Hub) (entries : List Entry) : h.Still (h.enterAll entries) :=
  List.foldlRecOn (motive := h.Still) _ _ (.refl h) fun h' so_far entry _ =>
    so_far.trans (h'.still_enter entry)

theorem still_reportAt (h : Hub) (n : Nat) : h.Still (h.reportAt n) := by
  refine still_of_publishing ?_ ?_ (h.moves_reportAt n) <;>
  · unfold reportAt
    split <;> rfl

theorem still_report (h : Hub) : h.Still h.report := by
  rw [report_eq]
  exact List.foldlRecOn (motive := h.Still) _ _ (.refl h) fun h' so_far n _ =>
    so_far.trans (h'.still_reportAt n)

end Hub

namespace Channel

theorem still_act (c : Channel) (reading : Reading) (h : Hub) : h.Still (c.act reading h).2 := by
  unfold act
  split
  · exact .refl h
  · exact ⟨rfl, rfl, .refl _ _⟩

theorem still_hear (c : Channel) (h : Hub) : h.Still (c.hear h).2 := by
  unfold hear
  split
  · exact .refl h
  · split
    · exact .refl h
    · rename_i change reply _
      cases reply with
      | ok => exact ⟨rfl, rfl, .refl _ _⟩
      | _ => exact ⟨rfl, rfl, h.registry.moves_add Registry.Family.noConfusion 1⟩

theorem still_poll (c : Channel) (h : Hub) : h.Still (c.poll h).2 := by
  unfold poll
  split
  · exact still_hear c h
  · exact (still_act ..).trans (still_hear ..)

end Channel

namespace Node

variable {node : Node}

theorem still_perform (node : Node) (i : Nat) (act : Act) :
    node.hub.Still (node.perform i act).2.hub := by
  cases ho : node.objects[i]? with
  | none =>
    rw [perform_none ho]
    exact .refl _
  | some o => exact (Hub.still_enterAll ..).trans (entered_perform ho act).still

theorem still_poll (node : Node) (a : Address) : node.hub.Still (node.poll a).hub := by
  cases hc : node.channel? a with
  | none =>
    rw [poll_none hc]
    exact .refl _
  | some c =>
    rw [poll_some hc]
    exact c.still_poll node.hub

theorem still_sweep (node : Node) (addresses : List Address) :
    node.hub.Still (node.sweep addresses).1.hub := by
  induction addresses generalizing node with
  | nil => exact .refl _
  | cons a rest ih => exact (still_poll node a).trans (ih (node.poll a))

theorem still_after (node : Node) {e : Event} (other : ∀ endpoint payload,
    e ≠ .deliver endpoint payload) : node.hub.Still (node.after e).hub := by
  have same : node.hub.Still { node.hub with registry := node.hub.registry } := .refl _
  cases e with
  | addSubnets settings digest =>
    exact (node.hub.agrees_registry (node.hub.registry.moves_gauge ..)).still
  | act i act => exact still_perform node i act
  | mark n =>
    rw [after_mark]
    exact .refl _
  | deliver endpoint payload => exact (other endpoint payload rfl).elim
  | turn a => exact still_poll node a
  | report => exact node.hub.still_report
  | runTasks => exact (still_sweep node node.tasks).trans (Hub.still_report _)
  | _ => exact ⟨rfl, rfl, .refl _ _⟩

/-- What a payload that decodes becomes for its processor. -/
def Delivery.arrival? (d : Delivery) : Option Arrival :=
  match Message.decode d.endpoint.cls d.endpoint.topic d.payload with
  | .ok m => some ⟨d.endpoint.cls, m.received d.endpoint.subnet⟩
  | .error _ => none

/-- Why the payload is dumped, if it is rejected. -/
def Delivery.reason (d : Delivery) : String :=
  match Message.read d.endpoint.cls d.payload with
  | .ok _ => "rejected by processor"
  | .error e => Message.refusal d.endpoint.topic e

theorem Delivery.reason_of_error {d : Delivery} {error : GossipError}
    (h : Message.decode d.endpoint.cls d.endpoint.topic d.payload = .error error) :
    d.reason = error.message := by
  cases hr : Message.read d.endpoint.cls d.payload with
  | ok read =>
    rw [Message.decode, hr] at h
    cases h
  | error e =>
    obtain ⟨error', h', message⟩ := Message.message_of_read_error hr d.endpoint.topic
    rw [h, Except.error.injEq] at h'
    subst h'
    rw [Delivery.reason, hr, message]

theorem Delivery.reason_of_decoded {d : Delivery} (h : d.arrival?.isSome = true) :
    d.reason = "rejected by processor" := by
  cases hr : Message.read d.endpoint.cls d.payload with
  | ok read => rw [Delivery.reason, hr]
  | error e =>
    obtain ⟨error, decode, -⟩ := Message.message_of_read_error hr d.endpoint.topic
    rw [Delivery.arrival?, decode] at h
    cases h

/-- How a delivery has come out: what its processor said, if it was asked, and what was returned. -/
structure Outcome where
  delivery : Delivery
  said : Option Verdict
  result : Verdict
  deriving DecidableEq

namespace Outcome

/-- What is dumped. -/
def dump? (o : Outcome) : Option RejectedPayload :=
  match o.result with
  | .reject => some ⟨o.delivery.endpoint.cls, o.delivery.endpoint.topic, o.delivery.payload,
      o.delivery.reason⟩
  | _ => none

/-- The processor decides on what decodes, and nothing else gets by. -/
def Sound (o : Outcome) : Prop :=
  match o.delivery.arrival? with
  | some _ => o.said = some o.result
  | none => o.said = none ∧ o.result = .reject

end Outcome

def Section.begun : Section → List Delivery
  | .whole (.deliver e payload) => [⟨e, payload⟩]
  | .receive e payload => [⟨e, payload⟩]
  | _ => []

namespace Interim

/-- The deliveries that return in the section. -/
def completed (t : Interim) : Section → List Outcome
  | .whole (.deliver e payload) =>
    let d : Delivery := ⟨e, payload⟩
    [⟨d, d.arrival?.map fun _ => t.node.hub.verdict e.cls, (t.node.deliver e payload).1⟩]
  | .receive e payload =>
    let d : Delivery := ⟨e, payload⟩
    if d.arrival?.isSome then [] else [⟨d, none, .reject⟩]
  | .conclude n v => (t.deliveries[n]?).toList.map fun d => ⟨d, some v, v⟩
  | _ => []

/-- The hub has seen to every delivery that was begun, and counted every one that returned. -/
structure Tallied (t : Interim) (begun : List Delivery) (done : List Outcome) : Prop where
  arrivals : t.node.hub.arrivals = begun.filterMap Delivery.arrival?
  rejected : t.node.hub.rejected = done.filterMap Outcome.dump?
  inbound : ∀ c v, t.node.hub.registry.value (.inbound c v) =
    (done.countP fun o => o.delivery.endpoint.cls = c ∧ o.result = v : Nat)
  deliveries : begun.Perm (done.map (·.delivery) ++ t.deliveries)
  decoded : ∀ d ∈ t.deliveries, d.arrival?.isSome = true
  sound : ∀ o ∈ done, o.Sound

namespace Tallied

variable {t : Interim} {begun : List Delivery} {done : List Outcome}

theorem still (h : t.Tallied begun done) {node' : Node} (hub : t.node.hub.Still node'.hub) :
    Tallied { t with node := node' } begun done where
  arrivals := hub.arrivals.trans h.arrivals
  rejected := hub.rejected.trans h.rejected
  inbound c v := (hub.inbound c v).trans (h.inbound c v)
  deliveries := h.deliveries
  decoded := h.decoded
  sound := h.sound

theorem inbound_more (h : t.Tallied begun done) (o : Outcome) (hub : Hub)
    (registry : hub.registry = t.node.hub.registry) (c : MessageClass) (v : Verdict) :
    (hub.count (.inbound o.delivery.endpoint.cls o.result)).registry.value (.inbound c v) =
      ((done ++ [o]).countP fun o => o.delivery.endpoint.cls = c ∧ o.result = v : Nat) := by
  rw [Hub.count, Registry.value_increment_inbound, registry, h.inbound, List.countP_append,
    List.countP_singleton]
  by_cases counted : o.delivery.endpoint.cls = c ∧ o.result = v <;> simp [counted]

theorem hand (h : t.Tallied begun done) {e : Endpoint} {payload : Bytes} {m : Message}
    (hm : Message.decode e.cls e.topic payload = .ok m) :
    (t.receive e payload).Tallied (begun ++ [⟨e, payload⟩]) done := by
  have arrival : Delivery.arrival? ⟨e, payload⟩ = some ⟨e.cls, m.received e.subnet⟩ := by
    simp only [Delivery.arrival?, hm]
  simp only [receive, hm]
  refine ⟨?_, h.rejected, h.inbound, ?_, ?_, h.sound⟩
  · rw [List.filterMap_append, ← h.arrivals]
    simp [arrival, withHub, Endpoint.hand, Message.operation_eq]
  · rw [← List.append_assoc]
    exact h.deliveries.append_right _
  · intro d hd
    rcases List.mem_append.1 hd with hd | hd
    · exact h.decoded d hd
    · rw [List.mem_singleton.1 hd, arrival]
      rfl

theorem refuse (h : t.Tallied begun done) {e : Endpoint} {payload : Bytes} {error : GossipError}
    (herror : Message.decode e.cls e.topic payload = .error error) :
    (t.receive e payload).Tallied (begun ++ [⟨e, payload⟩])
      (done ++ [⟨⟨e, payload⟩, none, .reject⟩]) := by
  have arrival : Delivery.arrival? ⟨e, payload⟩ = none := by simp only [Delivery.arrival?, herror]
  have reason : Delivery.reason ⟨e, payload⟩ = error.message :=
    Delivery.reason_of_error herror
  simp only [receive, herror]
  refine ⟨?_, ?_, h.inbound_more ⟨⟨e, payload⟩, none, .reject⟩ _ rfl, ?_, h.decoded, ?_⟩
  · rw [List.filterMap_append, ← h.arrivals]
    simp [arrival, withHub, Endpoint.refuse, Hub.count]
  · rw [List.filterMap_append, ← h.rejected]
    simp [Outcome.dump?, reason, withHub, Endpoint.refuse, Hub.count, Endpoint.dump]
  · rw [List.map_append, List.append_assoc]
    refine (h.deliveries.append_right _).trans ?_
    rw [List.append_assoc]
    exact List.perm_append_comm.append_left _
  · intro o ho
    rcases List.mem_append.1 ho with ho | ho
    · exact h.sound o ho
    · rw [List.mem_singleton.1 ho, Outcome.Sound, arrival]
      exact ⟨rfl, rfl⟩

theorem conclude (h : t.Tallied begun done) {n : Nat} {d : Delivery}
    (hd : t.deliveries[n]? = some d) (v : Verdict) :
    (t.conclude n v).Tallied begun (done ++ [⟨d, some v, v⟩]) := by
  have hm := List.mem_of_getElem? hd
  have decoded := h.decoded d hm
  have reason : d.reason = Endpoint.rejectedByProcessor := Delivery.reason_of_decoded decoded
  obtain ⟨hlt, he⟩ := List.getElem?_eq_some_iff.1 hd
  simp only [Interim.conclude, hd]
  refine ⟨?_, ?_, ?_, ?_, fun d' hd' => h.decoded d' (List.mem_of_mem_eraseIdx hd'), ?_⟩
  · rw [← h.arrivals]
    cases v <;> rfl
  · rw [List.filterMap_append, ← h.rejected]
    cases v <;>
      simp [Outcome.dump?, reason, withHub, Endpoint.conclude, Hub.count, Endpoint.dump]
  · have more := h.inbound_more ⟨d, some v, v⟩
    cases v <;> exact more _ rfl
  · rw [List.map_append, List.append_assoc]
    refine h.deliveries.trans (List.Perm.append_left _ ?_)
    rw [← he]
    exact (List.getElem_cons_eraseIdx_perm hlt).symm
  · intro o ho
    rcases List.mem_append.1 ho with ho | ho
    · exact h.sound o ho
    · rw [List.mem_singleton.1 ho, Outcome.Sound]
      cases ha : d.arrival? with
      | none =>
        rw [ha] at decoded
        cases decoded
      | some a => rfl

theorem step (h : t.Tallied begun done) (s : Section) :
    (t.step s).Tallied (begun ++ s.begun) (done ++ t.completed s) := by
  have aside {node' : Node} (hub : t.node.hub.Still node'.hub) :
      Tallied { t with node := node' } (begun ++ []) (done ++ []) := by
    rw [List.append_nil, List.append_nil]
    exact h.still hub
  cases s with
  | whole e =>
    cases e with
    | deliver e payload =>
      have delivered := Endpoint.deliver_eq e payload t.node.hub
      rw [deliver_eq, Section.begun, completed]
      cases hm : Message.decode e.cls e.topic payload with
      | ok m =>
        have waits : (t.receive e payload).deliveries[t.deliveries.length]? =
            some ⟨e, payload⟩ := by
          simp [receive, hm]
        have arrival : Delivery.arrival? ⟨e, payload⟩ = some ⟨e.cls, m.received e.subnet⟩ := by
          simp only [Delivery.arrival?, hm]
        have result : (t.node.deliver e payload).1 = t.node.hub.verdict e.cls := by
          simp only [Node.deliver, delivered, hm]
        simp only [arrival, result]
        exact (h.hand hm).conclude waits (t.node.hub.verdict e.cls)
      | error error =>
        have arrival : Delivery.arrival? ⟨e, payload⟩ = none := by
          simp only [Delivery.arrival?, hm]
        have result : (t.node.deliver e payload).1 = .reject := by
          simp only [Node.deliver, delivered, hm]
        simp only [arrival, result]
        exact h.refuse hm
    | _ => exact aside (still_after _ fun _ _ => Node.Event.noConfusion)
  | build i root => exact aside (agrees_build ..).still
  | handOver i => exact aside (agrees_handOver ..).still
  | join i optimistic => exact aside (agrees_join ..).still
  | report n => exact aside (Hub.still_reportAt ..)
  | receive e payload =>
    rw [Section.begun, completed]
    cases hm : Message.decode e.cls e.topic payload with
    | ok m =>
      have arrival : Delivery.arrival? ⟨e, payload⟩ = some ⟨e.cls, m.received e.subnet⟩ := by
        simp only [Delivery.arrival?, hm]
      simp only [arrival, Option.isSome_some, if_true, List.append_nil]
      exact h.hand hm
    | error error =>
      have arrival : Delivery.arrival? ⟨e, payload⟩ = none := by simp only [Delivery.arrival?, hm]
      simp only [arrival, Option.isSome_none]
      exact h.refuse hm
  | conclude n v =>
    cases hd : t.deliveries[n]? with
    | none =>
      have same : t.step (.conclude n v) = t := by simp only [Interim.step, Interim.conclude, hd]
      rw [same, completed, hd]
      exact aside (.refl _)
    | some d =>
      have begun' : (Section.conclude n v).begun = [] := rfl
      rw [begun', List.append_nil, completed, hd]
      exact h.conclude hd v

end Tallied

theorem tallied_run (settings : Settings) (schedule : Schedule) (sections : List Section) :
    ((fresh settings schedule).run sections).Tallied (sections.flatMap Section.begun)
      ((fresh settings schedule).collect completed sections) := by
  induction sections using List.reverseRecOn with
  | nil => exact ⟨rfl, rfl, fun _ _ => rfl, .refl _, fun d hd => (nomatch hd), fun o ho => (nomatch ho)⟩
  | append_singleton sections s ih =>
    rw [run_append, collect_append, List.flatMap_append, List.flatMap_singleton]
    exact ih.step s

end Interim

theorem Outcome.dumps_countP (done : List Outcome) (c : MessageClass) :
    (done.filterMap Outcome.dump?).countP (·.cls = c) =
      done.countP fun o => o.delivery.endpoint.cls = c ∧ o.result = .reject := by
  induction done with
  | nil => rfl
  | cons o rest ih =>
    rw [List.filterMap_cons, List.countP_cons, ← ih, dump?]
    cases o.result <;> simp [List.countP_cons]

theorem Outcome.results_countP (done : List Outcome) (c : MessageClass) :
    (done.countP fun o => o.delivery.endpoint.cls = c ∧ o.result = .accept) +
        (done.countP fun o => o.delivery.endpoint.cls = c ∧ o.result = .ignore) +
        (done.countP fun o => o.delivery.endpoint.cls = c ∧ o.result = .reject) =
      done.countP fun o => o.delivery.endpoint.cls = c := by
  induction done with
  | nil => rfl
  | cons o rest ih =>
    simp only [List.countP_cons, ← ih]
    cases o.result <;> by_cases hc : o.delivery.endpoint.cls = c <;> simp [hc] <;> omega

/-- What decodes reaches the processor of its class once, with what it was decoded to, and returns
the verdict of that processor; nothing else reaches one. Every delivery that returns is counted
under its result, and exactly the rejected ones are dumped, as they came in. -/
theorem inbound_accounted (settings : Settings) (schedule : Schedule) (sections : List Section) :
    let start := Interim.fresh settings schedule
    let hub := (start.run sections).node.hub
    let begun := sections.flatMap Section.begun
    let done := start.collect Interim.completed sections
    hub.arrivals = begun.filterMap Delivery.arrival? ∧
      begun.Perm (done.map (·.delivery) ++ (start.run sections).deliveries) ∧
      (∀ o ∈ done, match o.delivery.arrival? with
        | some _ => o.said = some o.result
        | none => o.said = none ∧ o.result = .reject) ∧
      hub.rejected = done.filterMap Outcome.dump? ∧
      ∀ c,
        (∀ v, hub.registry.value (.inbound c v) =
          (done.countP fun o => o.delivery.endpoint.cls = c ∧ o.result = v : Nat)) ∧
        hub.registry.value (.inbound c .accept) + hub.registry.value (.inbound c .ignore) +
            hub.registry.value (.inbound c .reject) =
          (done.countP fun o => o.delivery.endpoint.cls = c : Nat) ∧
        (hub.rejected.countP (·.cls = c) : Nat) = hub.registry.value (.inbound c .reject) := by
  intro start hub begun done
  have tallied : (start.run sections).Tallied begun done :=
    Interim.tallied_run settings schedule sections
  refine ⟨tallied.arrivals, tallied.deliveries, tallied.sound, tallied.rejected, fun c =>
    ⟨tallied.inbound c, ?_, ?_⟩⟩
  · rw [tallied.inbound, tallied.inbound, tallied.inbound, ← Outcome.results_countP done c]
    rfl
  · rw [tallied.inbound, tallied.rejected, Outcome.dumps_countP]

end Node

end BeaconGossip
