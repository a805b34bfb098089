import BeaconGossip.Proofs.Node.Staff
import BeaconGossip.Proofs.Node.Switches

namespace BeaconGossip

open Node (Event Interim Section)
open Overlay (Adds Names Reply)
open Scenario (publishCalls)

namespace Hub

/-- A delivery has gone on. -/
structure TakesIn (h h' : Hub) : Prop where
  overlay : h'.overlay = h.overlay
  publications : h'.publications = h.publications
  moves : h.registry.Moves (· = .inbound) h'.registry

/-- No topic has been joined or left, and no reconcile task has heard of a reply. -/
structure Unswitched (h h' : Hub) : Prop where
  adds : Adds (· = .publish) h.overlay h'.overlay
  moves : h.registry.Moves (· ≠ .subscribeFailures) h'.registry

variable {h h' h'' : Hub} {log : List Entry}

theorem Booked.takesIn (booked : h.Booked log) (takesIn : h.TakesIn h') : h'.Booked log :=
  booked.carry takesIn.publications (.of_eq _ takesIn.overlay) (by rw [takesIn.overlay])
    (takesIn.moves.mono (by rintro f rfl; rfl))

namespace Unswitched

theorem refl (h : Hub) : h.Unswitched h := ⟨.refl _ _, .refl _ _⟩

theorem trans (first : h.Unswitched h') (next : h'.Unswitched h'') : h.Unswitched h'' :=
  ⟨first.adds.trans next.adds, first.moves.trans next.moves⟩

theorem of_agrees (agrees : h.Agrees h') : h.Unswitched h' :=
  ⟨.of_eq _ agrees.overlay, agrees.registry.mono (by rintro f rfl; decide)⟩

theorem of_takesIn (takesIn : h.TakesIn h') : h.Unswitched h' :=
  ⟨.of_eq _ takesIn.overlay, takesIn.moves.mono (by rintro f rfl; decide)⟩

theorem of_publishing (adds : Adds (· = .publish) h.overlay h'.overlay)
    (moves : h.registry.Moves (·.isPublishing) h'.registry) : h.Unswitched h' :=
  ⟨adds, moves.mono (by rintro _ publishing rfl; cases publishing)⟩

end Unswitched

theorem unswitched_enter (h : Hub) (entry : Entry) : h.Unswitched (h.enter entry) := by
  refine .of_publishing ?_ (h.moves_enter entry)
  cases entry with
  | offer cls => exact .refl _ _
  | publish channel payload =>
    rw [enter_publish]
    split
    · exact .refl _ _
    · exact Overlay.adds_call h.overlay channel.topic rfl

theorem unswitched_enterAll (h : Hub) (entries : List Entry) : h.Unswitched (h.enterAll entries) :=
  List.foldlRecOn (motive := h.Unswitched) _ _ (.refl h) fun h' so_far entry _ =>
    so_far.trans (h'.unswitched_enter entry)

theorem unswitched_reportAt (h : Hub) (n : Nat) : h.Unswitched (h.reportAt n) :=
  .of_publishing (.of_eq _ (h.overlay_reportAt n)) (h.moves_reportAt n)

theorem unswitched_report (h : Hub) : h.Unswitched h.report := by
  rw [report_eq]
  exact List.foldlRecOn (motive := h.Unswitched) _ _ (.refl h) fun h' so_far n _ =>
    so_far.trans (h'.unswitched_reportAt n)

end Hub

namespace Endpoint

variable (e : Endpoint) (payload : Bytes) (h : Hub)

theorem takesIn_conclude (v : Verdict) : h.TakesIn (e.conclude payload v h) := by
  cases v <;> exact ⟨rfl, rfl, h.registry.moves_add (by rfl) 1⟩

theorem takesIn_refuse (error : GossipError) : h.TakesIn (e.refuse payload error h) :=
  ⟨rfl, rfl, h.registry.moves_add (by rfl) 1⟩

theorem takesIn_deliver : h.TakesIn (e.deliver payload h).2 := by
  rw [deliver_eq]
  split
  · rename_i m _
    have concluded := e.takesIn_conclude payload (e.hand m h) (h.verdict e.cls)
    exact ⟨concluded.overlay, concluded.publications, concluded.moves⟩
  · exact takesIn_refuse ..

end Endpoint

namespace Node

namespace Interim

theorem takesIn_receive (t : Interim) (e : Endpoint) (payload : Bytes) :
    t.node.hub.TakesIn (t.receive e payload).node.hub := by
  unfold receive
  split
  · exact ⟨rfl, rfl, .refl _ _⟩
  · exact e.takesIn_refuse ..

theorem takesIn_conclude (t : Interim) (n : Nat) (v : Verdict) :
    t.node.hub.TakesIn (t.conclude n v).node.hub := by
  unfold conclude
  split
  · exact ⟨rfl, rfl, .refl _ _⟩
  · rename_i d _
    exact d.endpoint.takesIn_conclude ..

/-- What is entered in the section. -/
def entries (t : Interim) : Section → List Entry
  | .whole (.act i act) => (t.node.objects[i]?).elim [] (·.entries t.node.attestations act)
  | _ => []

/-- The classes whose managers are offered a message in the section. -/
def offers (t : Interim) : Section → List MessageClass
  | .whole (.act i act) => (t.node.objects[i]?).elim [] (·.offers t.node.attestations act)
  | _ => []

/-- The joins and leaves that are called in the section. -/
def switches (t : Interim) : Section → List Switch
  | .whole (.turn a) => t.node.switches a
  | .whole .runTasks => t.node.sweepSwitches t.node.tasks
  | _ => []

end Interim

variable {node : Node} {log : List Entry} {switches : List Switch}

theorem booked_perform (booked : node.hub.Booked log) (i : Nat) (act : Act) :
    (node.perform i act).2.hub.Booked
      (log ++ (node.objects[i]?).elim [] (·.entries node.attestations act)) := by
  cases ho : node.objects[i]? with
  | none =>
    rw [perform_none ho, Option.elim_none, List.append_nil]
    exact booked
  | some o => exact (booked.enterAll _).of_agrees (entered_perform ho act)

theorem booked_poll (booked : node.hub.Booked log) (a : Address) :
    (node.poll a).hub.Booked log := by
  cases hc : node.channel? a with
  | none =>
    rw [poll_none hc]
    exact booked
  | some c =>
    rw [poll_some hc]
    exact booked.poll c

theorem booked_sweep (booked : node.hub.Booked log) (addresses : List Address) :
    (node.sweep addresses).1.hub.Booked log := by
  induction addresses generalizing node with
  | nil => exact booked
  | cons a rest ih => exact ih (booked_poll booked a)

theorem booked_after (booked : node.hub.Booked log) {e : Event}
    (unasked : ∀ i act, e ≠ .act i act) : (node.after e).hub.Booked log := by
  cases e with
  | addSubnets settings digest =>
    exact booked.of_agrees (node.hub.agrees_registry (node.hub.registry.moves_gauge ..))
  | act i act => exact (unasked i act rfl).elim
  | mark n =>
    rw [after_mark]
    exact booked
  | setVerdict cls v => exact booked.takesIn ⟨rfl, rfl, .refl _ _⟩
  | setRule rule =>
    exact booked.carry rfl (Overlay.adds_of_requests (fun _ => .refl _) rfl) rfl (.refl _ _)
  | release r =>
    exact booked.carry rfl (Overlay.adds_release _ _ r)
      (Overlay.publishCalls_release node.hub.overlay r) (.refl _ _)
  | answer n r =>
    exact booked.carry rfl (Overlay.adds_answer _ _ n r)
      (Overlay.publishCalls_answer node.hub.overlay n r) (.refl _ _)
  | deliver endpoint payload => exact booked.takesIn (endpoint.takesIn_deliver payload node.hub)
  | turn a => exact booked_poll booked a
  | report => exact booked.report
  | runTasks => exact (booked_sweep booked node.tasks).report
  | _ => exact booked

theorem booked_step {t : Interim} (booked : t.node.hub.Booked log) (s : Section) :
    (t.step s).node.hub.Booked (log ++ t.entries s) := by
  have aside {hub : Hub} (h : hub.Booked log) : hub.Booked (log ++ []) := by
    rw [List.append_nil]
    exact h
  cases s with
  | whole e =>
    cases e with
    | act i act => exact booked_perform booked i act
    | _ => exact aside (booked_after booked fun _ _ => Event.noConfusion)
  | build i root => exact aside (booked.of_agrees (agrees_build ..))
  | handOver i => exact aside (booked.of_agrees (agrees_handOver ..))
  | join i optimistic => exact aside (booked.of_agrees (agrees_join ..))
  | report n => exact aside (booked.reportAt n)
  | receive e payload => exact aside (booked.takesIn (t.takesIn_receive e payload))
  | conclude n v => exact aside (booked.takesIn (t.takesIn_conclude n v))

theorem booked_run (settings : Settings) (schedule : Schedule) (sections : List Section) :
    ((Interim.fresh settings schedule).run sections).node.hub.Booked
      ((Interim.fresh settings schedule).collect Interim.entries sections) := by
  refine Interim.collect_invariant (P := fun t log => t.node.hub.Booked log) ?_
    (fun _ _ s booked => booked_step booked s) sections
  exact ⟨fun _ => rfl, fun _ => rfl, fun _ => rfl, rfl, rfl, Overlay.names_idle _,
    fun p hp => (nomatch hp)⟩

theorem offerings_run (settings : Settings) (schedule : Schedule) (sections : List Section) :
    offerings ((Interim.fresh settings schedule).collect Interim.entries sections) =
      (Interim.fresh settings schedule).collect Interim.offers sections := by
  induction sections using List.reverseRecOn with
  | nil => rfl
  | append_singleton sections s ih =>
    have staffed := staffed_run settings schedule sections
    rw [Interim.collect_append, Interim.collect_append, offerings_append, ih]
    generalize (Interim.fresh settings schedule).run sections = t at staffed
    refine congrArg _ ?_
    unfold Interim.entries Interim.offers
    split
    · rename_i i act
      cases ho : t.node.objects[i]? with
      | none => rfl
      | some o => exact (staffed o (List.mem_of_getElem? ho)).offerings_entries _ act
    · rfl

theorem unswitched_perform (node : Node) (i : Nat) (act : Act) :
    node.hub.Unswitched (node.perform i act).2.hub := by
  cases ho : node.objects[i]? with
  | none =>
    rw [perform_none ho]
    exact .refl _
  | some o => exact (Hub.unswitched_enterAll ..).trans (.of_agrees (entered_perform ho act))

theorem unswitched_after (node : Node) {e : Event} (he : e.isTurn = false) :
    node.hub.Unswitched (node.after e).hub := by
  cases e with
  | addSubnets settings digest =>
    exact .of_agrees (node.hub.agrees_registry (node.hub.registry.moves_gauge ..))
  | act i act => exact unswitched_perform node i act
  | mark n =>
    rw [after_mark]
    exact .refl _
  | setRule rule => exact ⟨Overlay.adds_of_requests (fun _ => .refl _) rfl, .refl _ _⟩
  | release r => exact ⟨Overlay.adds_release _ _ r, .refl _ _⟩
  | answer n r => exact ⟨Overlay.adds_answer _ _ n r, .refl _ _⟩
  | deliver endpoint payload => exact .of_takesIn (endpoint.takesIn_deliver payload node.hub)
  | turn | runTasks => cases he
  | report => exact node.hub.unswitched_report
  | _ => exact ⟨.refl _ _, .refl _ _⟩

theorem unswitched_step (t : Interim) {s : Section} (halfway : ∀ e, s ≠ .whole e) :
    t.node.hub.Unswitched (t.step s).node.hub := by
  cases s with
  | whole e => exact (halfway e rfl).elim
  | build i root => exact .of_agrees (agrees_build ..)
  | handOver i => exact .of_agrees (agrees_handOver ..)
  | join i optimistic => exact .of_agrees (agrees_join ..)
  | report n => exact t.node.hub.unswitched_reportAt n
  | receive e payload => exact .of_takesIn (t.takesIn_receive e payload)
  | conclude n v => exact .of_takesIn (t.takesIn_conclude n v)

theorem heard_step {t : Interim} (heard : t.node.Heard switches) (ordered : t.node.Ordered)
    (s : Section) : (t.step s).node.Heard (switches ++ t.switches s) := by
  have aside {node' : Node} (serves : t.node.Serves node')
      (unswitched : t.node.hub.Unswitched node'.hub) : node'.Heard (switches ++ []) := by
    rw [List.append_nil]
    exact heard.steady (held?_served serves ordered) unswitched.adds unswitched.moves
  cases s with
  | whole e =>
    cases e with
    | turn a => exact heard.poll a
    | runTasks =>
      have reported := (t.node.sweep t.node.tasks).1.hub.unswitched_report
      exact (heard.sweep t.node.tasks).steady (fun _ => rfl) reported.adds reported.moves
    | _ => exact aside (serves_after t.node rfl) (unswitched_after t.node rfl)
  | _ =>
    exact aside (t.serves_step fun _ => Section.noConfusion)
      (unswitched_step t fun _ => Section.noConfusion)

theorem heard_run (settings : Settings) (schedule : Schedule) (sections : List Section) :
    ((Interim.fresh settings schedule).run sections).node.Heard
      ((Interim.fresh settings schedule).collect Interim.switches sections) := by
  have ordered := Interim.ordered_run settings schedule []
  refine (Interim.collect_invariant
    (P := fun t switches => t.node.Ordered ∧ t.node.Heard switches) ⟨ordered, ?_⟩
    (fun t _ s h => ⟨Advances.ordered (t.advances_step s) h.1, heard_step h.2 h.1 s⟩) sections).2
  exact ⟨Overlay.names_idle _, fun a s hs => (nomatch hs), fun a b s s' hs => (nomatch hs),
    fun s hs => (nomatch hs), fun _ => rfl⟩

/-- Every publish that a channel is told of is refused as too long and counted as failed, or is one
call of the overlay, which is counted when its task reports the reply, waits for that, or dies with
its task. Every offer to a manager is counted, and so is every failure of a join or a leave once its
reconcile task hears of it. -/
theorem calls_accounted (settings : Settings) (schedule : Schedule) (sections : List Section) :
    let start := Interim.fresh settings schedule
    let node := (start.run sections).node
    let hub := node.hub
    let log := start.collect Interim.entries sections
    let switches := start.collect Interim.switches sections
    (publishCalls hub.overlay.calls = (accepted log).map (·.2) ∧
        hub.publications.map (Publication.made hub.overlay) =
          (accepted log).map (fun (cls, topic, payload) => (cls, topic, some (.publish payload))) ∧
        Names (· = .publish) hub.overlay (hub.publications.map (·.ticket))) ∧
      Names (· ≠ .publish) hub.overlay (switches.map (·.ticket)) ∧
      ∀ c,
        (log.countP (Entry.Publishes c) : Nat) =
            hub.registry.value (.published c) + hub.registry.value (.publishFailures c) +
              hub.unreported c + hub.reportedAs c Reply.isDied ∧
        log.countP (Entry.Publishes c) =
            log.countP (Entry.Oversize c) + (accepted log).countP (·.1 = c) ∧
        hub.registry.value (.published c) = (hub.reportedAs c Reply.isOk : Nat) ∧
        hub.registry.value (.publishFailures c) =
            (log.countP (Entry.Oversize c) + hub.reportedAs c Reply.isRefused : Nat) ∧
        hub.registry.value (.publishRequests c) =
            ((start.collect Interim.offers sections).count c : Nat) ∧
        hub.registry.value (.subscribeFailures c) = (switches.countP (node.HasFailed c) : Nat) := by
  intro start node hub log switches
  have booked : hub.Booked log := booked_run settings schedule sections
  have heard : node.Heard switches := heard_run settings schedule sections
  refine ⟨⟨booked.calls, booked.made, booked.names⟩, heard.names, fun c => ⟨booked.balance c,
    publishes_countP log c, booked.published c, booked.failures c, ?_, heard.failures c⟩⟩
  rw [booked.requests, count_offer, offerings_run]

end Node

end BeaconGossip
