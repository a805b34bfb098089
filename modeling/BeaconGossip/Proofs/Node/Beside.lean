import BeaconGossip.Proofs.GossipObject.Reads
import BeaconGossip.Proofs.Node.Attribution
import BeaconGossip.Proofs.Node.Beyond

namespace BeaconGossip

open Node (Act Event Address)

namespace Node

variable {node node' : Node} {i j : Nat} {P : String → Prop} {mine : Nat → Prop} {act : Act}

/-- The topics are those of the object's channels, and of no others. -/
def Divided (i : Nat) (P : String → Prop) (node : Node) : Prop :=
  ∀ a c, node.channel? a = some c → (P c.topic ↔ a.object = i)

theorem Divided.before (h : Divided i P node') (advances : Advances node node')
    (ordered : node.Ordered) : Divided i P node := by
  intro a c hc
  obtain ⟨c', hc', he⟩ := advances.channel? ordered hc
  have ht : c'.topic = c.topic := congrArg Endpoint.topic he
  rw [← ht]
  exact h a c' hc'

theorem Divided.poll (h : Divided i P node) (a : Address) : Divided i P (node.poll a) := by
  intro b c hc
  obtain ⟨c', hc', he⟩ := endpoint_of_poll a hc
  have ht : c.topic = c'.topic := congrArg Endpoint.topic he
  rw [ht]
  exact h b c' hc'

theorem Divided.output {o : GossipObject} (h : Divided i P (node.perform j act).2)
    (ho : node.objects[j]? = some o) (kept : o.Kept) {entry : String × Bytes}
    (mem : entry ∈ o.output node.attestations act) : P entry.1 ↔ j = i := by
  obtain ⟨lane, d, hd, ht⟩ := kept.hasTopic_of_mem_output node act mem
  rw [← ht]
  refine h ⟨j, lane⟩ d ?_
  rw [channel?, objects_performed ho, Option.bind_some, hd]

/-- The second node is like the first, but that nothing has been asked of the object there; some
attestations may have been offered to it in the first. -/
structure Beside (i : Nat) (P : String → Prop) (mine : Nat → Prop) (node node' : Node) : Prop where
  schedule : node.schedule.Alike node'.schedule
  root : node'.schedule.genesisRoot = node.schedule.genesisRoot
  contents : node'.attestations.map (·.marked true) = node.attestations.map (·.marked true)
  offered : ∀ n, ¬ mine n → node'.attestations[n]? = node.attestations[n]?
  overlay : node.hub.overlay.Beyond P node'.hub.overlay
  outcomes : ∀ far : String → Bool, (∀ t, far t = true → ¬ P t) →
    node'.hub.outcomes.filter (far ·.1.topic) = node.hub.outcomes.filter (far ·.1.topic)
  objects : ∀ j, j ≠ i → node'.objects[j]? = node.objects[j]?
  length : node'.objects.length = node.objects.length
  idle : ∃ c, node'.objects[i]? = some (.controller c) ∧ c.managers = none
  tasks : node'.tasks.filter (·.object ≠ i) = node.tasks.filter (·.object ≠ i)

theorem contents_modify {attestations : List GossipAttestation}
    {f : GossipAttestation → GossipAttestation} (hf : ∀ a, (f a).marked true = a.marked true)
    (n : Nat) :
    (attestations.modify n f).map (·.marked true) = attestations.map (·.marked true) := by
  refine List.ext_getElem? fun m => ?_
  rw [List.getElem?_map, List.getElem?_map, List.getElem?_modify]
  cases attestations[m]? with
  | none => rfl
  | some a =>
    simp only [Option.map_eq_map, Option.map_some]
    split
    · rw [hf]
    · rfl

theorem contents_perform (node : Node) (j : Nat) (act : Act) :
    (node.perform j act).2.attestations.map (·.marked true) =
      node.attestations.map (·.marked true) := by
  by_cases hp : ∃ n, act = .publishAttestation n
  · obtain ⟨n, rfl⟩ := hp
    have marks : (node.perform j (.publishAttestation n)).2.attestations = _ :=
      publishAttestation_attestations node j n
    rw [marks]
    refine contents_modify (fun a => ?_) n
    split <;> rfl
  · rw [perform_attestations fun n he => hp ⟨n, he⟩]

theorem attestation_perform (node : Node) (j : Nat) {n : Nat}
    (other : act ≠ .publishAttestation n) :
    (node.perform j act).2.attestations[n]? = node.attestations[n]? := by
  by_cases hp : ∃ m, act = .publishAttestation m
  · obtain ⟨m, rfl⟩ := hp
    have marks : (node.perform j (.publishAttestation m)).2.attestations = _ :=
      publishAttestation_attestations node j m
    have apart : m ≠ n := by
      rintro rfl
      exact other rfl
    rw [marks, List.getElem?_modify_ne _ _ apart]
  · rw [perform_attestations fun m he => hp ⟨m, he⟩]

namespace Beside

theorem agree (h : Beside i P mine node node')
    (offers : ∀ n, act = .publishAttestation n → ¬ mine n) : Agree node node' act :=
  ⟨h.schedule, h.root, h.contents, fun n he => h.offered n (offers n he)⟩

theorem channel? (h : Beside i P mine node node') {a : Address} (ha : a.object ≠ i) :
    node'.channel? a = node.channel? a := by
  rw [Node.channel?, Node.channel?, h.objects a.object ha]

theorem channel?_own (h : Beside i P mine node node') {a : Address} (ha : a.object = i) :
    node'.channel? a = none := by
  obtain ⟨c, hc, hm⟩ := h.idle
  rw [Node.channel?, ha, hc, Option.bind_some, GossipObject.channel?_stopped hm]

theorem perform_own (h : Beside i P mine node node') (kept : node.Kept)
    (divided : Divided i P (node.perform i act).2)
    (offers : ∀ n, act = .publishAttestation n → mine n) :
    Beside i P mine (node.perform i act).2 node' := by
  cases ho : node.objects[i]? with
  | none =>
    rw [perform_none ho]
    exact h
  | some o =>
    obtain ⟨schedule, root⟩ := node.schedule_perform i act
    have near : ∀ entry ∈ o.output node.attestations act, P entry.1 :=
      fun entry mem => (divided.output ho (kept i o ho) mem).2 rfl
    refine ⟨schedule.symm.trans h.schedule, h.root.trans root.symm, ?_, ?_, ?_, ?_, ?_, ?_, h.idle,
      ?_⟩
    · rw [h.contents, contents_perform]
    · intro n hn
      rw [h.offered n hn, attestation_perform node i fun he => hn (offers n he)]
    · rw [perform_overlay ho]
      exact (Overlay.beyond_published near _).symm.trans h.overlay
    · intro far hf
      rw [h.outcomes far hf, perform_outcomes ho, Hub.noting, List.filter_append, List.filter_map]
      have none := Overlay.tickets_near near hf node.hub.overlay
      simp only [Function.comp_def, none, List.map_nil, List.append_nil]
    · intro j hj
      rw [h.objects j hj, (acted_perform node i act).objects_ne hj.symm]
    · rw [h.length, objects_perform ho, List.length_set]
    · rw [h.tasks, tasks_perform (kept i o ho) ho, List.filter_append, List.filter_map]
      simp [Function.comp_def]

theorem perform_other (h : Beside i P mine node node') (kept : node.Kept) (hj : j ≠ i)
    (offers : ∀ n, act = .publishAttestation n → ¬ mine n) :
    Beside i P mine (node.perform j act).2 (node'.perform j act).2 := by
  cases ho : node.objects[j]? with
  | none =>
    have ho' := (h.objects j hj).trans ho
    rw [perform_none ho, perform_none ho']
    exact h
  | some o =>
    have ho' := (h.objects j hj).trans ho
    obtain ⟨schedule, root⟩ := node.schedule_perform j act
    obtain ⟨schedule', root'⟩ := node'.schedule_perform j act
    have agree := h.agree offers
    have output := o.output_congr agree
    have performed := o.performed_congr agree
    refine ⟨(schedule.symm.trans h.schedule).trans schedule',
      (root'.trans h.root).trans root.symm, ?_, ?_, ?_, ?_, ?_, ?_, ?_, ?_⟩
    · rw [contents_perform, contents_perform, h.contents]
    · intro n hn
      by_cases hp : act = .publishAttestation n
      · subst hp
        have marks (node : Node) : (node.perform j (.publishAttestation n)).2.attestations = _ :=
          publishAttestation_attestations node j n
        have takes : node'.takes j = node.takes j := by
          funext a
          rw [Node.takes, Node.takes, h.objects j hj]
        rw [marks, marks, List.getElem?_modify, List.getElem?_modify, h.offered n hn, takes]
      · rw [attestation_perform node' j hp, attestation_perform node j hp, h.offered n hn]
    · rw [perform_overlay ho, perform_overlay ho', output]
      exact h.overlay.published _
    · intro far hf
      have tickets := h.overlay.tickets hf (o.output node.attestations act)
      rw [perform_outcomes ho, perform_outcomes ho', output, Hub.noting, Hub.noting,
        List.filter_append, List.filter_append, h.outcomes far hf, List.filter_map, List.filter_map]
      simp only [Function.comp_def, tickets]
    · intro k hk
      rw [objects_perform ho, objects_perform ho', performed, List.getElem?_set,
        List.getElem?_set, h.length, h.objects k hk]
    · rw [objects_perform ho, objects_perform ho', List.length_set, List.length_set, h.length]
    · obtain ⟨c, hc, hm⟩ := h.idle
      exact ⟨c, ((acted_perform node' j act).objects_ne hj).trans hc, hm⟩
    · rw [tasks_perform (kept j o ho) ho, tasks_perform (kept j o ho) ho', performed,
        List.filter_append, List.filter_append, h.tasks]

theorem poll_own (h : Beside i P mine node node') (divided : Divided i P node) {a : Address}
    (ha : a.object = i) : Beside i P mine (node.poll a) node' := by
  cases hc : node.channel? a with
  | none =>
    rw [poll_none hc]
    exact h
  | some c =>
    have near : P c.topic := (divided a c hc).2 ha
    rw [poll_some hc]
    refine ⟨h.schedule, h.root, h.contents, h.offered,
      (c.beyond_poll node.hub near).symm.trans h.overlay, ?_, ?_, ?_, h.idle, h.tasks⟩
    · intro far hf
      rw [h.outcomes far hf, Channel.outcomes_poll]
    · intro j hj
      rw [h.objects j hj, ha]
      exact (List.getElem?_modify_ne _ _ hj.symm).symm
    · rw [h.length, List.length_modify]

theorem poll_other (h : Beside i P mine node node') (regular : node.Regular)
    (divided : Divided i P node) {a : Address} (ha : a.object ≠ i) :
    Beside i P mine (node.poll a) (node'.poll a) := by
  have same := h.channel? ha
  cases hc : node.channel? a with
  | none =>
    rw [poll_none hc, poll_none (same.trans hc)]
    exact h
  | some c =>
    have beyond : ¬ P c.topic := fun near => ha ((divided a c hc).1 near)
    obtain ⟨polled, overlay⟩ := (regular.ticketed a c hc).poll_beyond beyond h.overlay
    rw [poll_some hc, poll_some (same.trans hc)]
    refine ⟨h.schedule, h.root, h.contents, h.offered, overlay, ?_, ?_, ?_, ?_, h.tasks⟩
    · intro far hf
      rw [Channel.outcomes_poll, Channel.outcomes_poll, h.outcomes far hf]
    · intro j hj
      rw [polled, List.getElem?_modify, List.getElem?_modify, h.objects j hj]
    · rw [List.length_modify, List.length_modify, h.length]
    · obtain ⟨d, hd, hm⟩ := h.idle
      exact ⟨d, (List.getElem?_modify_ne _ _ ha).trans hd, hm⟩

/-- A turn of one of the object's tasks is none where it has not been asked for anything. -/
theorem poll (h : Beside i P mine node node') (regular : node.Regular) (divided : Divided i P node)
    (a : Address) : Beside i P mine (node.poll a) (node'.poll a) := by
  by_cases ha : a.object = i
  · rw [poll_none (h.channel?_own ha)]
    exact h.poll_own divided ha
  · exact h.poll_other regular divided ha

theorem unfinished (h : Beside i P mine node node') {a : Address} (ha : a.object ≠ i) :
    node'.unfinished a = node.unfinished a := by
  rw [Node.unfinished, Node.unfinished, h.channel? ha]

/-- Turns of the object's tasks can be left out. -/
theorem sweep (h : Beside i P mine node node') (regular : node.Regular)
    (divided : Divided i P node) (addresses : List Address) :
    Beside i P mine (node.sweep addresses).1
        (node'.sweep (addresses.filter (·.object ≠ i))).1 ∧
      (node'.sweep (addresses.filter (·.object ≠ i))).2 =
        (node.sweep addresses).2.filter (·.object ≠ i) := by
  induction addresses generalizing node node' with
  | nil => exact ⟨h, rfl⟩
  | cons a rest ih =>
    by_cases ha : a.object = i
    · obtain ⟨last, left⟩ := ih (h.poll_own divided ha) (regular.poll a) (divided.poll a)
      rw [List.filter_cons_of_neg (by simpa using ha)]
      refine ⟨last, left.trans ?_⟩
      simp only [Node.sweep]
      split
      · rfl
      · rw [List.filter_cons_of_neg (by simpa using ha)]
    · have next := h.poll_other regular divided ha
      obtain ⟨last, left⟩ := ih next (regular.poll a) (divided.poll a)
      rw [List.filter_cons_of_pos (by simpa using ha)]
      refine ⟨last, ?_⟩
      simp only [Node.sweep]
      rw [h.unfinished ha, next.unfinished ha, left]
      split
      · rfl
      · rw [List.filter_cons_of_pos (by simpa using ha)]

/-- Nor need they have turns where there is nothing for them to do. -/
theorem sweep_idle {c : Controller} (hc : node.objects[i]? = some (.controller c))
    (hm : c.managers = none) (addresses : List Address) :
    node.sweep (addresses.filter (·.object ≠ i)) =
      ((node.sweep addresses).1, (node.sweep addresses).2.filter (·.object ≠ i)) := by
  induction addresses generalizing node with
  | nil => rfl
  | cons a rest ih =>
    by_cases ha : a.object = i
    · have idle : node.channel? a = none := by
        rw [Node.channel?, ha, hc, Option.bind_some, GossipObject.channel?_stopped hm]
      rw [List.filter_cons_of_neg (by simpa using ha), ih hc]
      simp only [Node.sweep, poll_none idle, Nat.lt_irrefl, if_false]
      rw [List.filter_cons_of_neg (by simpa using ha)]
    · have hc' : (node.poll a).objects[i]? = some (.controller c) := by
        cases ho : node.channel? a with
        | none => rwa [poll_none ho]
        | some d =>
          rw [poll_some ho]
          exact (List.getElem?_modify_ne _ _ ha).trans hc
      rw [List.filter_cons_of_pos (by simpa using ha)]
      simp only [Node.sweep, ih hc']
      split
      · rfl
      · rw [List.filter_cons_of_pos (by simpa using ha)]

theorem report_outcomes (h : Beside i P mine node node') {far : String → Bool}
    (hf : ∀ t, far t = true → ¬ P t) :
    node'.hub.report.outcomes.filter (far ·.1.topic) =
      node.hub.report.outcomes.filter (far ·.1.topic) := by
  rw [Hub.outcomes_report, Hub.outcomes_report, List.filter_map, List.filter_map]
  simp only [Function.comp_def]
  rw [h.outcomes far hf]
  refine List.map_congr_left fun p mem => ?_
  rw [h.overlay.reply? (hf _ (List.mem_filter.1 mem).2)]

theorem runTasks (h : Beside i P mine node node') (regular : node.Regular)
    (divided : Divided i P node) : Beside i P mine node.runTasks node'.runTasks := by
  obtain ⟨c, hc, hm⟩ := h.idle
  obtain ⟨last, left⟩ := h.sweep regular divided node.tasks
  rw [← h.tasks, sweep_idle hc hm] at last left
  exact ⟨last.schedule, last.root, last.contents, last.offered, last.overlay,
    fun far hf => last.report_outcomes hf, last.objects, last.length, last.idle, left⟩

theorem add (h : Beside i P mine node node') (o : GossipObject) :
    Beside i P mine (node.add o) (node'.add o) := by
  refine ⟨h.schedule, h.root, h.contents, h.offered, h.overlay, h.outcomes, ?_, ?_, ?_, h.tasks⟩
  · intro j hj
    rw [objects_add, objects_add, h.length, h.objects j hj]
  · simpa [Node.add] using h.length
  · obtain ⟨c, hc, hm⟩ := h.idle
    have hi := (List.getElem?_eq_some_iff.1 hc).1
    refine ⟨c, ?_, hm⟩
    rw [objects_add, if_neg (by omega), hc]

theorem hubs (h : Beside i P mine node node') {hub hub' : Hub}
    (overlay : hub.overlay.Beyond P hub'.overlay)
    (outcomes : ∀ far : String → Bool, (∀ t, far t = true → ¬ P t) →
      hub'.outcomes.filter (far ·.1.topic) = hub.outcomes.filter (far ·.1.topic)) :
    Beside i P mine { node with hub := hub } { node' with hub := hub' } :=
  ⟨h.schedule, h.root, h.contents, h.offered, overlay, outcomes, h.objects, h.length, h.idle,
    h.tasks⟩

theorem attestations (h : Beside i P mine node node') {f f' : List GossipAttestation}
    (contents : f'.map (·.marked true) = f.map (·.marked true))
    (offered : ∀ n, ¬ mine n → f'[n]? = f[n]?) :
    Beside i P mine { node with attestations := f } { node' with attestations := f' } :=
  ⟨h.schedule, h.root, contents, offered, h.overlay, h.outcomes, h.objects, h.length, h.idle,
    h.tasks⟩

theorem after (h : Beside i P mine node node') (regular : node.Regular)
    (divided : Divided i P node) {e : Event} (unasked : ∀ act, e ≠ .act i act)
    (even : e.isEven = true) (offers : ∀ n, e.offers n = true → ¬ mine n) :
    Beside i P mine (node.after e) (node'.after e) := by
  cases e with
  | addController fork settings => exact h.add _
  | addManager settings digest cls => exact h.add _
  | addSubnets settings digest =>
    have touched (s : Registry.Series) : Beside i P mine
        { node with hub := { node.hub with registry := node.hub.registry.touch s } }
        { node' with hub := { node'.hub with registry := node'.hub.registry.touch s } } :=
      h.hubs h.overlay h.outcomes
    exact (touched _).add _
  | addChannel endpoint limit => exact h.add _
  | act j act =>
    have hj : j ≠ i := by
      rintro rfl
      exact unasked act rfl
    refine h.perform_other regular.kept hj fun n he => offers n ?_
    rw [he]
    exact decide_eq_true rfl
  | addAttestation a =>
    have lengths := congrArg List.length h.contents
    rw [List.length_map, List.length_map] at lengths
    refine h.attestations ?_ fun n hn => ?_
    · rw [List.map_append, List.map_append, h.contents]
    · rw [List.getElem?_append, List.getElem?_append, lengths, h.offered n hn]
  | mark m =>
    have contents (node : Node) : (node.attestations.modify m (·.marked true)).map
        (·.marked true) = node.attestations.map (·.marked true) :=
      contents_modify (f := (·.marked true)) (fun _ => rfl) m
    rw [after_mark, after_mark]
    refine h.attestations ?_ fun n hn => ?_
    · rw [contents, contents, h.contents]
    · rw [List.getElem?_modify, List.getElem?_modify, h.offered n hn]
  | setGenesisRoot root =>
    have schedule := node.schedule.alike_setGenesisRoot root
    have schedule' := node'.schedule.alike_setGenesisRoot root
    exact ⟨(schedule.symm.trans h.schedule).trans schedule', rfl, h.contents, h.offered,
      h.overlay, h.outcomes, h.objects, h.length, h.idle, h.tasks⟩
  | setVerdict cls v => exact h.hubs h.overlay h.outcomes
  | setRule rule => exact h.hubs (h.overlay.setRule rule) h.outcomes
  | release r => exact h.hubs (h.overlay.release even) h.outcomes
  | answer => cases even
  | deliver endpoint payload =>
    have delivered : Beside i P mine { node with hub := (endpoint.deliver payload node.hub).2 }
        { node' with hub := (endpoint.deliver payload node'.hub).2 } := by
      refine h.hubs ?_ fun far hf => ?_
      · rw [deliver_overlay, deliver_overlay]
        exact h.overlay
      · rw [Endpoint.outcomes_deliver, Endpoint.outcomes_deliver, h.outcomes far hf]
    exact delivered
  | turn a => exact h.poll regular divided a
  | report => exact h.hubs h.overlay fun far hf => h.report_outcomes hf
  | runTasks => exact h.runTasks regular divided

theorem answer (h : Beside i P mine node node') (kept : node.Kept) (hj : j ≠ i)
    (divided : Divided i P (node.perform j act).2)
    (offers : ∀ n, act = .publishAttestation n → ¬ mine n) :
    (node'.perform j act).1 = (node.perform j act).1 := by
  have ho' := h.objects j hj
  cases ho : node.objects[j]? with
  | none =>
    rw [ho] at ho'
    cases act <;>
      simp only [perform, Node.start, Node.requestSubnet, Node.releaseSubnet, Node.publish,
        Node.publishPayload, Node.gossip, ho, ho']
  | some o =>
    have far : ∀ entry ∈ o.output node.attestations act, ¬ P entry.1 :=
      fun entry mem near => hj ((divided.output ho (kept j o ho) mem).1 near)
    exact (h.agree offers).answer ho (ho'.trans ho)
      fun entry mem => h.overlay.callsOn (far entry mem)

theorem result? (h : Beside i P mine node node') {t : Overlay.Ticket} (ht : ¬ P t.topic) :
    node'.hub.result? (.sent t) = node.hub.result? (.sent t) := by
  have noted : (t, true) ∈ node'.hub.outcomes ↔ (t, true) ∈ node.hub.outcomes := by
    have same := h.outcomes (fun topic => decide (topic = t.topic)) fun topic on => by
      rw [of_decide_eq_true on]
      exact ht
    have mem := congrArg ((t, true) ∈ ·) same
    simpa [List.mem_filter] using mem
  rw [Hub.result?_sent, Hub.result?_sent, h.overlay.reply? ht]
  simp only [noted]

end Beside

/-- What the acts and turns of either side make calls on: the topics of its own side. -/
theorem Divided.callsOn_perform (divided : Divided i P (node.perform j act).2) (kept : node.Kept)
    {topic : String} (apart : ¬ (P topic ↔ j = i)) :
    (node.perform j act).2.hub.overlay.callsOn topic = node.hub.overlay.callsOn topic := by
  cases ho : node.objects[j]? with
  | none => rw [perform_none ho]
  | some o =>
    rw [perform_overlay ho]
    refine Overlay.callsOn_published (fun entry mem he => apart ?_) _
    rw [← he]
    exact divided.output ho (kept j o ho) mem

theorem Divided.callsOn_poll (divided : Divided i P node) {a : Address} {topic : String}
    (apart : ¬ (P topic ↔ a.object = i)) :
    (node.poll a).hub.overlay.callsOn topic = node.hub.overlay.callsOn topic := by
  cases hc : node.channel? a with
  | none => rw [poll_none hc]
  | some c =>
    have ht : topic ≠ c.topic := by
      rintro rfl
      exact apart (divided a c hc)
    rw [poll_some hc]
    exact (c.beyond_poll (P := (· = c.topic)) node.hub rfl).callsOn ht

theorem Divided.sweep (h : Divided i P node) (addresses : List Address) :
    Divided i P (node.sweep addresses).1 := by
  induction addresses generalizing node with
  | nil => exact h
  | cons a rest ih => exact ih (h.poll a)

theorem exists_tasks_perform (kept : node.Kept) (j : Nat) (act : Act) :
    ∃ lanes : List Lane,
      (node.perform j act).2.tasks = node.tasks ++ lanes.map (Address.mk j) := by
  cases ho : node.objects[j]? with
  | none => exact ⟨[], by rw [perform_none ho, List.map_nil, List.append_nil]⟩
  | some o => exact ⟨_, tasks_perform (kept j o ho) ho act⟩

end Node

end BeaconGossip
