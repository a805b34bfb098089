import BeaconGossip.Proofs.GossipObject.Veil
import BeaconGossip.Proofs.Node.Later
import BeaconGossip.Proofs.Node.Schedule
import BeaconGossip.Proofs.Overlay.Beyond

namespace BeaconGossip

open Node (Act Event)

namespace Channel

/-- The call that the channel waits for is one on its own topic. -/
def Ticketed (c : Channel) : Prop := ∀ ch, c.change = some ch → ch.ticket.topic = c.topic

theorem Ticketed.of_idle {c : Channel} (idle : c.change = none) : c.Ticketed := by
  intro ch started
  rw [idle] at started
  cases started

theorem Ticketed.poll {c : Channel} (ticketed : c.Ticketed) (h : Hub) :
    (c.poll h).1.Ticketed := by
  have hp := c.polled h
  generalize c.poll h = p at hp ⊢
  cases hp with
  | resting => exact ticketed
  | held => exact ticketed
  | answered => exact .of_idle rfl
  | agreed idle => exact .of_idle idle
  | called =>
    intro ch started
    rw [← Option.some.inj started]
    rfl
  | replied => exact .of_idle rfl

theorem beyond_poll {P : String → Prop} (c : Channel) (h : Hub) (near : P c.topic) :
    h.overlay.Beyond P (c.poll h).2.overlay := by
  have hp := c.polled h
  generalize c.poll h = p at hp ⊢
  cases hp with
  | resting => exact .refl _ _
  | held => exact .refl _ _
  | answered => exact .refl _ _
  | agreed => exact .refl _ _
  | called => exact Overlay.beyond_call _ near _
  | replied => exact Overlay.beyond_call _ near _

/-- A turn comes out the same whatever the calls on other topics have come to. -/
theorem Ticketed.poll_beyond {P : String → Prop} {c : Channel} {h h' : Hub}
    (ticketed : c.Ticketed) (ht : ¬ P c.topic) (beyond : h.overlay.Beyond P h'.overlay) :
    (c.poll h').1 = (c.poll h).1 ∧ (c.poll h).2.overlay.Beyond P (c.poll h').2.overlay := by
  cases hch : c.change with
  | some ch =>
    have ht' : ¬ P ch.ticket.topic := (ticketed ch hch).symm ▸ ht
    rw [poll_started hch, poll_started hch, hear_started hch, hear_started hch, beyond.reply? ht']
    cases h.overlay.reply? ch.ticket with
    | none => exact ⟨rfl, beyond⟩
    | some r => exact ⟨rfl, beyond⟩
  | none =>
    cases hq : c.queued with
    | zero =>
      rw [poll_resting hch hq, poll_resting hch hq]
      exact ⟨rfl, beyond⟩
    | succ queued =>
      by_cases hw : c.wanted = c.confirmed
      · rw [poll_agreed hch hq hw, poll_agreed hch hq hw]
        exact ⟨rfl, beyond⟩
      · have call := beyond.call c.topic c.action
        have ticket :
            (h'.overlay.call c.topic c.action).2 = (h.overlay.call c.topic c.action).2 := by
          rw [Overlay.call_ticket, Overlay.call_ticket, beyond.callsOn ht]
        rw [poll_call hch hq hw, poll_call hch hq hw, beyond.made ht]
        cases (h.overlay.made c.topic c.action).reply with
        | none =>
          rw [ticket]
          exact ⟨rfl, call⟩
        | some r => exact ⟨rfl, call⟩

theorem Ticketed.grown {c c' : Option Channel} (h : Grown c c') (ticketed : ∀ d ∈ c, d.Ticketed) :
    ∀ d ∈ c', d.Ticketed := by
  intro d hd
  rw [Option.mem_def] at hd
  obtain ⟨e, limit, h⟩ := h
  cases h with
  | absent => cases hd
  | opened requests =>
    rw [Option.some.injEq] at hd
    subst hd
    exact .of_idle (requestAll_fields _ requests).1
  | kept c requests =>
    rw [Option.some.injEq] at hd
    subst hd
    intro ch started
    rw [(requestAll_fields c requests).1] at started
    rw [topic, requestAll_endpoint]
    exact ticketed c rfl ch started

end Channel

namespace Node

variable {A : String} {node node' : Node} {i : Nat} {o : GossipObject}

def Ticketed (node : Node) : Prop := ∀ a, ∀ c ∈ node.channel? a, c.Ticketed

theorem Advance.ticketed (h : Advance node node') (ordered : node.Ordered)
    (ticketed : node.Ticketed) : node'.Ticketed := by
  intro a
  cases h with
  | served _ grown => exact Channel.Ticketed.grown (grown ordered a) (ticketed a)
  | turn b =>
    cases hb : node.channel? b with
    | none =>
      rw [poll_none hb]
      exact ticketed a
    | some c =>
      rw [channel?_poll hb]
      split
      · intro d hd
        rw [← Option.some.inj hd]
        exact (ticketed b c hb).poll node.hub
      · exact ticketed a

theorem Advances.ticketed (h : Advances node node') (ordered : node.Ordered)
    (ticketed : node.Ticketed) : node'.Ticketed := by
  induction h with
  | refl => exact ticketed
  | tail advances advance ih => exact advance.ticketed (Advances.ordered advances ordered) ih

/-- What every reachable node has. -/
structure Regular (node : Node) : Prop where
  kept : node.Kept
  ticketed : node.Ticketed

namespace Regular

theorem poll (h : node.Regular) (a : Address) : (node.poll a).Regular :=
  ⟨h.kept.poll a, Advance.ticketed (.turn node a) h.kept.ordered h.ticketed⟩

theorem after (h : node.Regular) (e : Event) : (node.after e).Regular :=
  ⟨h.kept.after e, (advances_after node e).ticketed h.kept.ordered h.ticketed⟩

theorem run (h : node.Regular) (es : List Event) : (node.run es).Regular := by
  induction es generalizing node with
  | nil => exact h
  | cons e es ih => exact ih (h.after e)

end Regular

theorem Reachable.regular (h : node.Reachable) : node.Regular := by
  obtain ⟨settings, schedule, es, rfl⟩ := h
  refine Regular.run ⟨?_, ?_⟩ es
  · intro i o ho
    cases ho
  · intro a c hc
    cases hc

/-- Whether the event does the same to a topic whatever the overlay holds on others. -/
def Event.isEven : Event → Bool
  | .release r => r.isEven
  | .answer .. => false
  | _ => true

/-- There is no channel of the topic at the address. -/
def far (node : Node) (A : String) (a : Address) : Bool := (node.channel? a).all (·.topic ≠ A)

/-- The same nodes, but for the outcome of the calls on one topic. -/
structure Beyond (A : String) (node node' : Node) : Prop where
  schedule : node'.schedule = node.schedule
  attestations : node'.attestations = node.attestations
  overlay : node.hub.overlay.Beyond (· = A) node'.hub.overlay
  objects : node'.objects.map (·.veil A) = node.objects.map (·.veil A)
  tasks : node'.tasks.filter (node'.far A) = node.tasks.filter (node.far A)

theorem veil_channel? (node : Node) (A : String) (a : Address) :
    (node.channel? a).map (Channel.veil A) =
      ((node.objects.map (·.veil A))[a.object]?).bind (·.channel? a.lane) := by
  rw [channel?, List.getElem?_map]
  cases node.objects[a.object]? with
  | none => rfl
  | some o => exact (o.channel?_veil A a.lane).symm

theorem far_congr (objects : node'.objects.map (·.veil A) = node.objects.map (·.veil A)) :
    node'.far A = node.far A := by
  have far_veil (node : Node) (a : Address) :
      node.far A a = ((node.channel? a).map (Channel.veil A)).all (·.topic ≠ A) := by
    rw [far, Option.all_map]
    simp only [Channel.veil_topic]
  funext a
  rw [far_veil, far_veil, veil_channel?, veil_channel?, objects]

theorem far_of_advance (advance : Advance node node') (ordered : node.Ordered) {a : Address}
    (h : node'.far A a = true) : node.far A a = true := by
  cases hc : node.channel? a with
  | none => rw [far, hc, Option.all_none]
  | some c =>
    obtain ⟨c', hc', he⟩ := advance.channel? ordered hc
    have ht : c'.topic = c.topic := congrArg Endpoint.topic he
    rw [far, hc', Option.all_some, ht] at h
    rw [far, hc, Option.all_some, h]

theorem far_poll (node : Node) (A : String) (a : Address) : (node.poll a).far A = node.far A := by
  cases hc : node.channel? a with
  | none => rw [poll_none hc]
  | some c =>
    funext b
    rw [far, far, channel?_poll hc]
    split
    case isTrue hb =>
      have ht : (c.poll node.hub).1.topic = c.topic :=
        congrArg Endpoint.topic (Channel.poll_endpoint c node.hub)
      rw [hb, hc, Option.all_some, Option.all_some, ht]
    case isFalse => rfl

theorem far_sweep (node : Node) (A : String) (addresses : List Address) :
    (node.sweep addresses).1.far A = node.far A := by
  induction addresses generalizing node with
  | nil => rfl
  | cons a rest ih => exact (ih (node.poll a)).trans (far_poll node A a)

namespace Beyond

theorem refl (A : String) (node : Node) : Beyond A node node := ⟨rfl, rfl, .refl _ _, rfl, rfl⟩

theorem symm (h : Beyond A node node') : Beyond A node' node :=
  ⟨h.schedule.symm, h.attestations.symm, h.overlay.symm, h.objects.symm, h.tasks.symm⟩

theorem trans {node'' : Node} (h : Beyond A node node') (h' : Beyond A node' node'') :
    Beyond A node node'' :=
  ⟨h'.schedule.trans h.schedule, h'.attestations.trans h.attestations, h.overlay.trans h'.overlay,
    h'.objects.trans h.objects, h'.tasks.trans h.tasks⟩

theorem far (h : Beyond A node node') : node'.far A = node.far A := far_congr h.objects

theorem channel? (h : Beyond A node node') (a : Address) :
    (node'.channel? a).map (Channel.veil A) = (node.channel? a).map (Channel.veil A) := by
  rw [veil_channel?, veil_channel?, h.objects]

theorem channel?_far (h : Beyond A node node') {a : Address} {c : Channel} (ht : c.topic ≠ A)
    (hc : node.channel? a = some c) : node'.channel? a = some c := by
  have veiled := h.channel? a
  rw [hc, Option.map_some, Channel.veil_beyond ht] at veiled
  obtain ⟨c', hc', he⟩ := Option.map_eq_some_iff.1 veiled
  have ht' : c'.topic ≠ A := by rwa [← c'.veil_topic A, he]
  rw [hc', ← he, Channel.veil_beyond ht']

theorem object? (h : Beyond A node node') (ho : node.objects[i]? = some o) :
    ∃ o', node'.objects[i]? = some o' ∧ o'.veil A = o.veil A := by
  have veiled := congrArg (·[i]?) h.objects
  simp only [List.getElem?_map, ho, Option.map_some] at veiled
  exact Option.map_eq_some_iff.1 veiled

theorem next (h : Beyond A node node') (regular : node.Regular) {last last' : Node}
    (serves : node.Serves last) (schedule : last'.schedule = last.schedule)
    (attestations : last'.attestations = last.attestations)
    (overlay : last.hub.overlay.Beyond (· = A) last'.hub.overlay)
    (objects : last'.objects.map (·.veil A) = last.objects.map (·.veil A)) {new : List Address}
    (tasks : last.tasks = node.tasks ++ new) (tasks' : last'.tasks = node'.tasks ++ new) :
    Beyond A last last' := by
  refine ⟨schedule, attestations, overlay, objects, ?_⟩
  -- What is far in the end was far before: tasks only drop out, and on both sides alike.
  have both : (fun a => last.far A a && node.far A a) = last.far A := by
    funext a
    cases hf : last.far A a with
    | false => rfl
    | true => exact far_of_advance serves.advance regular.kept.ordered hf
  have old := congrArg (List.filter (last.far A)) h.tasks
  rw [h.far, List.filter_filter, List.filter_filter, both] at old
  rw [far_congr objects, tasks, tasks', List.filter_append, List.filter_append, old]

theorem takes (h : Beyond A node node') (i : Nat) : node'.takes i = node.takes i := by
  funext a
  have veiled := congrArg (fun objects => objects[i]?.any (·.takes a)) h.objects
  simp only [List.getElem?_map, Option.any_map, GossipObject.takes_veil] at veiled
  exact veiled

theorem perform_attestations (h : Beyond A node node') (i : Nat) (act : Act) :
    (node'.perform i act).2.attestations = (node.perform i act).2.attestations := by
  by_cases hp : ∃ n, act = .publishAttestation n
  · obtain ⟨n, rfl⟩ := hp
    have marks : (node.perform i (.publishAttestation n)).2.attestations = _ :=
      publishAttestation_attestations node i n
    have marks' : (node'.perform i (.publishAttestation n)).2.attestations = _ :=
      publishAttestation_attestations node' i n
    rw [marks, marks', h.attestations, h.takes]
  · have other : ∀ n, act ≠ .publishAttestation n := fun n he => hp ⟨n, he⟩
    rw [Node.perform_attestations other, Node.perform_attestations other, h.attestations]

theorem perform_schedule (h : Beyond A node node') (i : Nat) (act : Act) :
    (node'.perform i act).2.schedule = (node.perform i act).2.schedule := by
  have plain (node : Node) (start : (Event.act i act).isStart = false) :
      (node.perform i act).2.schedule = node.schedule := schedule_after node start rfl
  cases act with
  | start root head =>
    have veiled := congrArg
      (fun objects => objects[i]?.elim node.schedule (·.scheduled node.schedule)) h.objects
    simp only [List.getElem?_map, Option.elim_map, Function.comp_def, GossipObject.scheduled_veil]
      at veiled
    simp only [perform, Node.start_schedule, h.schedule]
    exact veiled
  | _ => rw [plain node rfl, plain node' rfl, h.schedule]

theorem perform (h : Beyond A node node') (regular : node.Regular) (regular' : node'.Regular)
    (i : Nat) (act : Act) : Beyond A (node.perform i act).2 (node'.perform i act).2 := by
  cases ho : node.objects[i]? with
  | none =>
    have ho' : node'.objects[i]? = none := by
      have lengths := congrArg List.length h.objects
      rw [List.length_map, List.length_map] at lengths
      rw [List.getElem?_eq_none_iff] at ho ⊢
      omega
    rw [perform_none ho, perform_none ho']
    exact h
  | some o =>
    obtain ⟨o', ho', veiled⟩ := h.object? ho
    have performed : (o'.performed node' act).veil A = (o.performed node act).veil A := by
      rw [← o.performed_veil A h.schedule h.attestations, ← veiled]
      exact (o'.performed_veil A rfl rfl act).symm
    have spawned : o'.spawned (o'.performed node' act) = o.spawned (o.performed node act) := by
      have grown := (serves_performed ho act).grown (regular.kept i o ho).ordered
      have grown' := (serves_performed ho' act).grown (regular'.kept i o' ho').ordered
      rw [← ((regular.kept i o ho).performed node act).spawned_veil (A := A) grown,
        ← ((regular'.kept i o' ho').performed node' act).spawned_veil grown', veiled, performed]
    refine h.next regular (acted_perform node i act).serves (h.perform_schedule i act)
      (h.perform_attestations i act) ?_ ?_ (tasks_perform (regular.kept i o ho) ho act) ?_
    · rw [perform_overlay ho, perform_overlay ho', h.attestations, ← o'.output_veil A, veiled,
        o.output_veil]
      exact h.overlay.published _
    · rw [objects_perform ho, objects_perform ho', List.map_set, List.map_set, h.objects, performed]
    · rw [tasks_perform (regular'.kept i o' ho') ho' act, spawned]

theorem unturned (h : Beyond A node node') (regular : node.Regular) (regular' : node'.Regular)
    {e : Event} (turn : e.isTurn = false) (even : e.isEven = true) :
    Beyond A (node.after e) (node'.after e) := by
  have serves := serves_after node turn
  have add (o : GossipObject) :
      (node'.add o).objects.map (·.veil A) = (node.add o).objects.map (·.veil A) := by
    rw [Node.add, Node.add, List.map_append, List.map_append, h.objects]
  have kept (node : Node) : node.tasks = node.tasks ++ [] := (List.append_nil _).symm
  cases e with
  | act i act => exact h.perform regular regular' i act
  | addController | addManager | addSubnets | addChannel =>
    exact h.next regular serves h.schedule h.attestations h.overlay (add _) (kept node) (kept node')
  | addAttestation a =>
    exact h.next regular serves h.schedule (congrArg (· ++ [a]) h.attestations) h.overlay h.objects
      (kept node) (kept node')
  | mark n =>
    rw [after_mark] at serves
    rw [after_mark, after_mark]
    exact h.next regular serves h.schedule (congrArg (·.modify n (·.marked true)) h.attestations)
      h.overlay h.objects (kept node) (kept node')
  | setGenesisRoot root =>
    exact h.next regular serves (congrArg (·.setGenesisRoot root) h.schedule) h.attestations
      h.overlay h.objects (kept node) (kept node')
  | setVerdict | report =>
    exact h.next regular serves h.schedule h.attestations h.overlay h.objects (kept node)
      (kept node')
  | setRule rule =>
    exact h.next regular serves h.schedule h.attestations (h.overlay.setRule rule) h.objects
      (kept node) (kept node')
  | deliver endpoint payload =>
    refine h.next regular serves h.schedule h.attestations ?_ h.objects (kept node) (kept node')
    have overlay (node : Node) :
        (node.after (.deliver endpoint payload)).hub.overlay = node.hub.overlay :=
      deliver_overlay endpoint payload node.hub
    rw [overlay, overlay]
    exact h.overlay
  | release r =>
    exact h.next regular serves h.schedule h.attestations (h.overlay.release even) h.objects
      (kept node) (kept node')
  | answer => cases even
  | turn | runTasks => cases turn

/-- A turn of a task of the topic does not show. -/
theorem poll_near (regular : node.Regular) {a : Address} {c : Channel}
    (hc : node.channel? a = some c) : Beyond c.topic node (node.poll a) := by
  obtain ⟨o, ho, hl⟩ := Option.bind_eq_some_iff.1 hc
  have veiled : (o.onLane a.lane fun _ => (c.poll node.hub).1).veil c.topic = o.veil c.topic :=
    (regular.kept _ o ho).turned_veil hl (Channel.veil_poll node.hub rfl)
  have tasks : (node.poll a).tasks = node.tasks := by rw [poll_some hc]
  refine ⟨by rw [poll_some hc], by rw [poll_some hc], ?_, ?_, by rw [tasks, far_poll]⟩
  · rw [poll_some hc]
    exact c.beyond_poll node.hub rfl
  · obtain ⟨hlt, he⟩ := List.getElem?_eq_some_iff.1 ho
    rw [objects_poll hc ho, List.map_set, veiled, ← he, ← List.map_set, List.set_getElem_self]

theorem poll_far (h : Beyond A node node') (regular : node.Regular) {a : Address} {c : Channel}
    (hc : node.channel? a = some c) (ht : c.topic ≠ A) : Beyond A (node.poll a) (node'.poll a) := by
  have hc' := h.channel?_far ht hc
  obtain ⟨same, overlay⟩ := (regular.ticketed a c hc).poll_beyond ht h.overlay
  obtain ⟨o, ho, _⟩ := Option.bind_eq_some_iff.1 hc
  obtain ⟨o', ho', veiled⟩ := h.object? ho
  have tasks {node : Node} (hc : node.channel? a = some c) : (node.poll a).tasks = node.tasks := by
    rw [poll_some hc]
  refine ⟨?_, ?_, ?_, ?_, ?_⟩
  · rw [poll_some hc, poll_some hc']
    exact h.schedule
  · rw [poll_some hc, poll_some hc']
    exact h.attestations
  · rw [poll_some hc, poll_some hc']
    exact overlay
  · rw [objects_poll hc ho, objects_poll hc' ho', List.map_set, List.map_set, h.objects, same,
      ← GossipObject.onLane_veil, ← GossipObject.onLane_veil, veiled]
  · rw [tasks hc, tasks hc', far_poll, far_poll, h.tasks]

theorem poll (h : Beyond A node node') (regular : node.Regular) (regular' : node'.Regular)
    (a : Address) : Beyond A (node.poll a) (node'.poll a) := by
  have veiled := h.channel? a
  cases hc : node.channel? a with
  | none =>
    rw [hc, Option.map_none, Option.map_eq_none_iff] at veiled
    rw [poll_none hc, poll_none veiled]
    exact h
  | some c =>
    by_cases ht : c.topic = A
    · subst ht
      rw [hc, Option.map_some] at veiled
      obtain ⟨c', hc', he⟩ := Option.map_eq_some_iff.1 veiled
      have ht' : c'.topic = c.topic := by rw [← c'.veil_topic c.topic, he, Channel.veil_topic]
      have near' := poll_near regular' hc'
      rw [ht'] at near'
      exact ((poll_near regular hc).symm.trans h).trans near'
    · exact h.poll_far regular hc ht

theorem unfinished (h : Beyond A node node') {a : Address} (hf : node.far A a = true) :
    node'.unfinished a = node.unfinished a := by
  have veiled := h.channel? a
  rw [Node.unfinished, Node.unfinished]
  cases hc : node.channel? a with
  | none =>
    rw [hc, Option.map_none, Option.map_eq_none_iff] at veiled
    rw [veiled]
  | some c =>
    rw [Node.far, hc, Option.all_some, decide_eq_true_eq] at hf
    rw [h.channel?_far hf hc]

theorem sweep_same (h : Beyond A node node') (regular : node.Regular) (regular' : node'.Regular)
    {addresses : List Address} (hf : ∀ a ∈ addresses, node.far A a = true) :
    Beyond A (node.sweep addresses).1 (node'.sweep addresses).1 ∧
      (node'.sweep addresses).2 = (node.sweep addresses).2 := by
  induction addresses generalizing node node' with
  | nil => exact ⟨h, rfl⟩
  | cons a rest ih =>
    rw [List.forall_mem_cons] at hf
    have next := h.poll regular regular' a
    have far := far_poll node A a
    obtain ⟨last, left⟩ := ih next (regular.poll a) (regular'.poll a) (by rw [far]; exact hf.2)
    refine ⟨last, ?_⟩
    simp only [sweep]
    rw [h.unfinished hf.1, next.unfinished (by rw [far]; exact hf.1), left]

/-- Turns of the tasks of the topic can be left out. -/
theorem sweep_far (regular : node.Regular) (addresses : List Address) :
    Beyond A (node.sweep addresses).1 (node.sweep (addresses.filter (node.far A))).1 ∧
      (node.sweep (addresses.filter (node.far A))).2 =
        (node.sweep addresses).2.filter (node.far A) := by
  induction addresses generalizing node with
  | nil => exact ⟨.refl A node, rfl⟩
  | cons a rest ih =>
    obtain ⟨last, left⟩ := ih (regular.poll a)
    rw [far_poll] at last left
    cases hf : node.far A a with
    | true =>
      rw [List.filter_cons_of_pos hf]
      refine ⟨last, ?_⟩
      simp only [sweep, left]
      split
      · rfl
      · rw [List.filter_cons_of_pos hf]
    | false =>
      have hf' : ¬ node.far A a = true := by rw [hf]; exact Bool.false_ne_true
      rw [List.filter_cons_of_neg hf']
      obtain ⟨c, hc, ht⟩ : ∃ c, node.channel? a = some c ∧ c.topic = A := by
        cases hc : node.channel? a with
        | none => simp [Node.far, hc] at hf
        | some c => exact ⟨c, rfl, by simpa [Node.far, hc] using hf⟩
      -- The turn does not show, so that the rest may as well begin without it.
      have near := poll_near regular hc
      rw [ht] at near
      have far : ∀ b ∈ rest.filter (node.far A), (node.poll a).far A b = true := by
        rw [far_poll]
        exact fun b hb => (List.mem_filter.1 hb).2
      obtain ⟨last', left'⟩ := near.symm.sweep_same (regular.poll a) regular far
      refine ⟨last.trans last', left'.trans (left.trans ?_)⟩
      simp only [sweep]
      split
      · rfl
      · rw [List.filter_cons_of_neg hf']

theorem runTasks (h : Beyond A node node') (regular : node.Regular) (regular' : node'.Regular) :
    Beyond A node.runTasks node'.runTasks := by
  obtain ⟨last, left⟩ := sweep_far (A := A) regular node.tasks
  obtain ⟨last', left'⟩ := sweep_far (A := A) regular' node'.tasks
  have far : ∀ a ∈ node.tasks.filter (node.far A), node.far A a = true :=
    fun a ha => (List.mem_filter.1 ha).2
  obtain ⟨both, same⟩ := h.sweep_same regular regular' far
  rw [h.tasks] at last' left'
  have swept := (last.trans both).trans last'.symm
  refine ⟨swept.schedule, swept.attestations, swept.overlay, swept.objects, ?_⟩
  have far_runTasks (node : Node) : node.runTasks.far A = node.far A := far_sweep node A node.tasks
  rw [far_runTasks, far_runTasks]
  exact left'.symm.trans (same.trans left)

theorem after (h : Beyond A node node') (regular : node.Regular) (regular' : node'.Regular)
    {e : Event} (even : e.isEven = true) : Beyond A (node.after e) (node'.after e) := by
  cases turn : e.isTurn with
  | false => exact h.unturned regular regular' turn even
  | true =>
    cases e with
    | turn a => exact h.poll regular regular' a
    | runTasks => exact h.runTasks regular regular'
    | _ => cases turn

end Beyond

end Node

end BeaconGossip
