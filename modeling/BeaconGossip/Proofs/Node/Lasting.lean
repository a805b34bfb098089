import BeaconGossip.Proofs.Node.Perform
import BeaconGossip.Proofs.Node.Section

namespace BeaconGossip.Node

/-- The property holds of new objects, and lasts. -/
structure Lasting (P : GossipObject → Prop) : Prop where
  controller : ∀ fork settings, P (.controller (.ofFork fork settings))
  manager : ∀ settings digest cls, P (.manager (.ofClass settings digest cls))
  subnets : ∀ settings digest, P (.subnets (.fresh settings digest))
  channel : ∀ endpoint limit, P (.channel (.fresh endpoint limit))
  act : ∀ {o : GossipObject}, P o → ∀ node act, P (o.performed node act)
  turn : ∀ {o : GossipObject} {lane : Lane} {c : Channel}, P o → o.channel? lane = some c →
    ∀ hub, P (o.onLane lane fun _ => (c.poll hub).1)
  build : ∀ {c c' : Controller} {root : Root} {schedule schedule' : Schedule} {r r' : Registry},
    P (.controller c) → c.build root schedule r = .ok (c', schedule', r') → P (.controller c')
  handOver : ∀ {c : Controller}, P (.controller c) → ∀ r, P (.controller (c.handOver r).1)
  join : ∀ {c : Controller}, P (.controller c) → ∀ head, P (.controller (c.subscribe head))

/-- All objects have the property. -/
def Every (P : GossipObject → Prop) (node : Node) : Prop := ∀ o ∈ node.objects, P o

variable {P : GossipObject → Prop} {node node' : Node} {i : Nat} {o o' : GossipObject}

namespace Every

theorem of_objects (h : node.Every P) (objects : node'.objects = node.objects) :
    node'.Every P := by
  rw [Every, objects]
  exact h

theorem add (h : node.Every P) (ho : P o) (objects : node'.objects = node.objects ++ [o]) :
    node'.Every P := by
  intro p hp
  rw [objects] at hp
  rcases List.mem_append.1 hp with hp | hp
  · exact h p hp
  · rw [List.mem_singleton.1 hp]
    exact ho

theorem get (h : node.Every P) (ho : node.objects[i]? = some o) : P o :=
  h o (List.mem_of_getElem? ho)

theorem set (h : node.Every P) (ho : P o) (objects : node'.objects = node.objects.set i o) :
    node'.Every P := by
  intro p hp
  rw [objects] at hp
  rcases List.mem_or_eq_of_mem_set hp with hp | rfl
  · exact h p hp
  · exact ho

end Every

namespace Lasting

theorem perform (lasting : Lasting P) (h : node.Every P) (i : Nat) (act : Act) :
    (node.perform i act).2.Every P := by
  cases ho : node.objects[i]? with
  | none =>
    rw [perform_none ho]
    exact h
  | some o => exact h.set (lasting.act (h.get ho) node act) (objects_perform ho act)

theorem poll (lasting : Lasting P) (h : node.Every P) (a : Address) : (node.poll a).Every P := by
  cases hc : node.channel? a with
  | none =>
    rw [poll_none hc]
    exact h
  | some c =>
    obtain ⟨o, ho, hl⟩ := Option.bind_eq_some_iff.1 hc
    exact h.set (lasting.turn (h.get ho) hl node.hub) (objects_poll hc ho)

theorem sweep (lasting : Lasting P) (h : node.Every P) (addresses : List Address) :
    (node.sweep addresses).1.Every P := by
  induction addresses generalizing node with
  | nil => exact h
  | cons a rest ih => exact ih (lasting.poll h a)

theorem after (lasting : Lasting P) (h : node.Every P) (e : Event) : (node.after e).Every P := by
  cases e with
  | addController fork settings => exact h.add (lasting.controller fork settings) rfl
  | addManager settings digest cls => exact h.add (lasting.manager settings digest cls) rfl
  | addSubnets settings digest => exact h.add (lasting.subnets settings digest) rfl
  | addChannel endpoint limit => exact h.add (lasting.channel endpoint limit) rfl
  | act i act => exact lasting.perform h i act
  | mark n =>
    rw [after_mark]
    exact h.of_objects rfl
  | turn a => exact lasting.poll h a
  | runTasks => exact (lasting.sweep h node.tasks).of_objects rfl
  | _ => exact h.of_objects rfl

theorem step (lasting : Lasting P) {t : Interim} (h : t.node.Every P) (s : Section) :
    (t.step s).node.Every P := by
  cases s with
  | whole e => exact lasting.after h e
  | build i root =>
    simp only [Interim.step, Node.build]
    split
    · rename_i c hc
      split
      · exact h
      · rename_i hb
        exact h.set (lasting.build (h.get hc) hb) rfl
    · exact h
  | handOver i =>
    simp only [Interim.step, Node.handOver]
    split
    · rename_i c hc
      exact h.set (lasting.handOver (h.get hc) _) rfl
    · exact h
  | join i optimistic =>
    simp only [Interim.step, Node.join]
    split
    · rename_i c hc
      exact h.set (lasting.join (h.get hc) optimistic) rfl
    · exact h
  | report n => exact h.of_objects rfl
  | receive e payload =>
    simp only [Interim.step, Interim.receive]
    split <;> exact h.of_objects rfl
  | conclude n v =>
    simp only [Interim.step, Interim.conclude]
    split
    · exact h
    · exact h.of_objects rfl

theorem run (lasting : Lasting P) (settings : Settings) (schedule : Schedule)
    (sections : List Section) : ((Interim.fresh settings schedule).run sections).node.Every P :=
  Interim.run_invariant (P := (·.node.Every P)) (fun _ ho => absurd ho List.not_mem_nil)
    (fun _ s h => lasting.step h s) sections

end Lasting

end BeaconGossip.Node
