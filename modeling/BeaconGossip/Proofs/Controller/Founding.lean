import BeaconGossip.Proofs.Controller.HandOver

namespace BeaconGossip

open Node (Interim Section)

namespace Controller

variable {c c' : Controller} {root : Root} {schedule : Schedule} {r : Registry}

theorem settings_build {p : Controller × Schedule × Registry}
    (h : c.build root schedule r = .ok p) : p.1.settings = c.settings := by
  obtain ⟨c', schedule', r'⟩ := p
  obtain ⟨-, rfl, -⟩ | ⟨-, digest, -, rfl, -⟩ := build_ok h
  · rfl
  · rfl

theorem settings_handOver (c : Controller) (r : Registry) :
    (c.handOver r).1.settings = c.settings := by
  cases hm : c.managers with
  | none => rw [handOver_unstarted hm]
  | some m => rw [handOver_started hm]

theorem start_of_build (c : Controller) (root : Root) (head : Bool) (schedule : Schedule)
    (r : Registry) :
    match c.build root schedule r with
    | .error e => c.start root head schedule r = .error e
    | .ok _ => ∃ p, c.start root head schedule r = .ok p ∧ p.1.settings = c.settings := by
  rw [start]
  cases hb : c.build root schedule r with
  | error e => rfl
  | ok p => exact ⟨_, rfl, (settings_handOver p.1 p.2.2).trans (settings_build hb)⟩

end Controller

namespace Node

/-- The root of the start that the section is, or begins. -/
def Section.startRoot? (i : Nat) : Section → Option Root
  | .whole (.act j (.start root _)) => if j = i then some root else none
  | .build j root => if j = i then some root else none
  | _ => none

/-- A start of the object comes through in the section. -/
def Interim.Founds (t : Interim) (i : Nat) (s : Section) : Prop :=
  ∃ root, s.startRoot? i = some root ∧ (t.node.build i root).1 = .ok ()

/-- A start of the object comes through in one of the sections. -/
def Interim.HasFounded (t : Interim) (i : Nat) : List Section → Prop
  | [] => False
  | s :: rest => t.Founds i s ∨ (t.step s).HasFounded i rest

variable {t : Interim} {i : Nat} {c c' : Controller} {s : Section}

/-- The controller is the same one, and has been started if it had been or now is. -/
structure Interim.Follows (t : Interim) (i : Nat) (c c' : Controller) (founded : Prop) : Prop where
  object : t.node.objects[i]? = some (.controller c')
  settings : c'.settings = c.settings
  started : c'.managers ≠ none ↔ c.managers ≠ none ∨ founded

theorem not_founds (hs : s.startRoot? i = none) : ¬ t.Founds i s := by
  rintro ⟨root, hs', -⟩
  rw [hs] at hs'
  cases hs'

theorem founds_iff (hc : t.node.objects[i]? = some (.controller c)) {root : Root}
    (hs : s.startRoot? i = some root) :
    t.Founds i s ↔ ∃ p, c.build root t.node.schedule t.node.hub.registry = .ok p := by
  have built : (t.node.build i root).1 = .ok () ↔
      ∃ p, c.build root t.node.schedule t.node.hub.registry = .ok p := by
    simp only [Node.build, hc]
    cases c.build root t.node.schedule t.node.hub.registry <;> simp
  rw [← built, Interim.Founds, hs]
  simp

theorem follows_same (hs : s.startRoot? i = none)
    (object : (t.step s).node.objects[i]? = some (.controller c'))
    (settings : c'.settings = c.settings) (unstarted : c'.managers = none ↔ c.managers = none) :
    (t.step s).Follows i c c' (t.Founds i s) := by
  refine ⟨object, settings, ?_⟩
  rw [or_iff_left (not_founds hs)]
  exact not_congr unstarted

theorem follows_start (hc : t.node.objects[i]? = some (.controller c)) {root : Root}
    (hs : s.startRoot? i = some root)
    (object : (t.step s).node.objects[i]? = some (.controller c'))
    (failed : ∀ e, c.build root t.node.schedule t.node.hub.registry = .error e → c' = c)
    (came : ∀ p, c.build root t.node.schedule t.node.hub.registry = .ok p →
      c'.settings = c.settings ∧ c'.managers ≠ none) :
    (t.step s).Follows i c c' (t.Founds i s) := by
  have founds := founds_iff hc hs
  cases hb : c.build root t.node.schedule t.node.hub.registry with
  | error e =>
    obtain rfl := failed e hb
    refine ⟨object, rfl, ?_⟩
    rw [founds, hb]
    simp
  | ok p =>
    obtain ⟨settings, started⟩ := came p hb
    refine ⟨object, settings, iff_of_true started (.inr ?_)⟩
    exact founds.2 ⟨p, hb⟩

theorem startRoot?_of_starts (h : s.starts i = false) : s.startRoot? i = none := by
  cases s with
  | whole e =>
    cases e with
    | act j act =>
      cases act with
      | start root head => exact if_neg (of_decide_eq_false h)
      | _ => rfl
    | _ => rfl
  | build j root => exact if_neg (of_decide_eq_false h)
  | _ => rfl

theorem follows_step (hc : t.node.objects[i]? = some (.controller c)) (s : Section) :
    ∃ c', (t.step s).Follows i c c' (t.Founds i s) := by
  cases own : s.starts i with
  | false =>
    obtain ⟨c', hc', heeds⟩ := Controller.heeds_step hc own
    exact ⟨c', follows_same (startRoot?_of_starts own) hc' heeds.settings heeds.fixed.unstarted⟩
  | true =>
    cases s with
    | whole e =>
      cases e with
      | act j act =>
        cases act with
        | start root head =>
          obtain rfl : j = i := of_decide_eq_true own
          have came := c.start_of_build root head t.node.schedule t.node.hub.registry
          refine ⟨_, follows_start hc (if_pos rfl)
            (Controller.objects_perform hc (.start root head)) ?_ ?_⟩
          · intro e hb
            rw [hb] at came
            simp only [Controller.performed, came]
          · intro p hb
            rw [hb] at came
            obtain ⟨p', hs, settings⟩ := came
            have started := Controller.start_managers hs
            simp only [Controller.performed, hs]
            exact ⟨settings, started⟩
        | _ => cases own
      | _ => cases own
    | build j root =>
      obtain rfl : j = i := of_decide_eq_true own
      cases hb : c.build root t.node.schedule t.node.hub.registry with
      | error e =>
        refine ⟨c, follows_start hc (if_pos rfl) ?_ (fun _ _ => rfl) ?_⟩
        · simp only [Interim.step, Node.build, hc, hb]
        · intro p came
          rw [hb] at came
          cases came
      | ok p =>
        refine ⟨p.1, follows_start hc (if_pos rfl) ?_ ?_ ?_⟩
        · simp only [Interim.step, Node.build, hc, hb]
          exact Controller.objects_put hc rfl
        · intro e failed
          rw [hb] at failed
          cases failed
        · intro p' came
          exact ⟨Controller.settings_build hb, Controller.build_managers hb⟩
    | handOver j =>
      obtain rfl : j = i := of_decide_eq_true own
      exact ⟨_, follows_same rfl (Controller.objects_handOver hc) (c.settings_handOver _)
        (c.handOver_fixed _).unstarted⟩
    | join j optimistic =>
      obtain rfl : j = i := of_decide_eq_true own
      exact ⟨_, follows_same rfl (Controller.objects_join hc optimistic) rfl
        (c.subscribe_fixed optimistic).unstarted⟩
    | _ => cases own

theorem follows_run (hc : t.node.objects[i]? = some (.controller c)) (sections : List Section) :
    ∃ c', (t.run sections).Follows i c c' (t.HasFounded i sections) := by
  induction sections generalizing t c with
  | nil => exact ⟨c, hc, rfl, by simp [Interim.HasFounded]⟩
  | cons s rest ih =>
    obtain ⟨c₁, object, settings, started⟩ := follows_step hc s
    obtain ⟨c₂, object', settings', started'⟩ := ih object
    refine ⟨c₂, object', settings'.trans settings, ?_⟩
    rw [started', started, Interim.HasFounded, or_assoc]

end Node

end BeaconGossip
