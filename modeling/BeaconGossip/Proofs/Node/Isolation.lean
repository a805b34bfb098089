import BeaconGossip.Proofs.Node.Beyond

namespace BeaconGossip.Node

open Overlay (Ticket news Answers)

/-- Everything about the topic is the same in both nodes: the calls made on it with their replies,
what is live there, and all that its channels keep. -/
structure SameOn (topic : String) (node node' : Node) : Prop where
  calls : node'.hub.overlay.callsOn topic = node.hub.overlay.callsOn topic
  live : node'.hub.overlay.endpoint? topic = node.hub.overlay.endpoint? topic
  channels : ∀ a c, c.topic = topic → (node'.channel? a = some c ↔ node.channel? a = some c)

/-- What happens next in two runs: the same in both, or something in the overlay of either. -/
inductive Move where
  | both (e : Event)
  | overlays (e e' : Option Event)

/-- Whether the event is the overlay's: it sets a rule for the topic or answers what it holds. -/
def Event.ofOverlay (A : String) : Event → Bool
  | .setRule rule => decide (rule.topic = some A)
  | .release _ | .answer .. => true
  | _ => false

namespace Move

def here : Move → List Event
  | both e => [e]
  | overlays e _ => e.toList

def there : Move → List Event
  | both e => [e]
  | overlays _ e' => e'.toList

/-- All calls but those on the topic get the same replies in both runs. -/
def Fair (A : String) (node node' : Node) : Move → Prop
  | both e => e.isEven = true
  | overlays e e' => e.all (·.ofOverlay A) = true ∧ e'.all (·.ofOverlay A) = true ∧
      ∀ t : Ticket, t.topic ≠ A →
        news node'.hub.overlay (node'.run e'.toList).hub.overlay t =
          news node.hub.overlay (node.run e.toList).hub.overlay t

end Move

/-- What happens in the first of two runs. -/
def here (moves : List Move) : List Event := moves.flatMap (·.here)

/-- What happens in the second. -/
def there (moves : List Move) : List Event := moves.flatMap (·.there)

def Fair (A : String) (node node' : Node) : List Move → Prop
  | [] => True
  | m :: rest => m.Fair A node node' ∧ Fair A (node.run m.here) (node'.run m.there) rest

variable {A : String} {node node' : Node}

theorem run_ofOverlay (node : Node) {e : Option Event} (h : e.all (·.ofOverlay A) = true) :
    ∃ o, node.run e.toList = node.withOverlay o ∧ Answers (· = A) node.hub.overlay o := by
  cases e with
  | none => exact ⟨node.hub.overlay, rfl, .refl _ _⟩
  | some e =>
    cases e with
    | setRule rule =>
      obtain ⟨kind, topic, behaviour, spares⟩ := rule
      have ht : topic = some A := of_decide_eq_true h
      subst ht
      exact ⟨_, rfl, Overlay.answers_setRule (· = A) node.hub.overlay kind rfl behaviour spares⟩
    | release r => exact ⟨_, rfl, Overlay.answers_release _ node.hub.overlay r⟩
    | answer n r => exact ⟨_, rfl, Overlay.answers_answer _ node.hub.overlay n r⟩
    | _ => cases h

namespace Beyond

theorem move (h : Beyond A node node') (regular : node.Regular) (regular' : node'.Regular)
    {m : Move} (fair : m.Fair A node node') : Beyond A (node.run m.here) (node'.run m.there) := by
  cases m with
  | both e => exact h.after regular regular' fair
  | overlays e e' =>
    obtain ⟨mine, mine', same⟩ := fair
    obtain ⟨o, ho, answers⟩ := run_ofOverlay node mine
    obtain ⟨o', ho', answers'⟩ := run_ofOverlay node' mine'
    rw [ho, ho'] at same
    rw [Move.here, Move.there, ho, ho']
    exact ⟨h.schedule, h.attestations, answers.beyond answers' h.overlay same, h.objects, h.tasks⟩

theorem run (h : Beyond A node node') (regular : node.Regular) (regular' : node'.Regular)
    {moves : List Move} (fair : Fair A node node' moves) :
    Beyond A (node.run (here moves)) (node'.run (there moves)) := by
  induction moves generalizing node node' with
  | nil => exact h
  | cons m rest ih =>
    have last := ih (h.move regular regular' fair.1) (regular.run m.here) (regular'.run m.there)
      fair.2
    rw [run_run, run_run] at last
    exact last

theorem sameOn (h : Beyond A node node') {B : String} (hB : B ≠ A) : SameOn B node node' := by
  refine ⟨h.overlay.callsOn hB, h.overlay.live B hB, ?_⟩
  rintro a c rfl
  exact ⟨h.symm.channel?_far hB, h.channel?_far hB⟩

end Beyond

theorem Fair.take {moves : List Move} (h : Fair A node node' moves) (k : Nat) :
    Fair A node node' (moves.take k) := by
  induction moves generalizing node node' k with
  | nil =>
    rw [List.take_nil]
    trivial
  | cons m rest ih =>
    cases k with
    | zero => trivial
    | succ k => exact ⟨h.1, ih h.2 k⟩

/-- However the overlay treats the calls on a topic, nothing of it shows on any other: after every
step both runs have made the same calls there, with the same endpoint live and the same channels. -/
theorem isolated {base : Node} (reachable : base.Reachable) {A : String} {moves : List Move}
    (fair : Fair A base base moves) (k : Nat) {B : String} (hB : B ≠ A) :
    SameOn B (base.run (here (moves.take k))) (base.run (there (moves.take k))) :=
  ((Beyond.refl A base).run reachable.regular reachable.regular (fair.take k)).sameOn hB

theorem fair_setRule (node node' : Node) {rule rule' : Overlay.Rule} (on : rule.topic = some A)
    (on' : rule'.topic = some A) :
    (Move.overlays (some (.setRule rule)) (some (.setRule rule'))).Fair A node node' := by
  refine ⟨decide_eq_true on, decide_eq_true on', fun t _ => ?_⟩
  have unanswered (o : Overlay) : news o o t = none := Overlay.news_of_callsOn rfl
  exact (unanswered node'.hub.overlay).trans (unanswered node.hub.overlay).symm

theorem fair_release (node node' : Node) {r : Overlay.Release} (on : r.topic = some A) :
    (Move.overlays (some (.release r)) none).Fair A node node' := by
  refine ⟨rfl, rfl, fun t ht => ?_⟩
  have released : news node.hub.overlay (node.hub.overlay.release r).2 t = none :=
    Overlay.news_of_callsOn (Overlay.callsOn_release_ne node.hub.overlay on ht)
  exact (Overlay.news_of_callsOn rfl).trans released.symm

/-- A controller is started. In one run the overlay holds the join of the block topic and accepts it
after all others; in the other run it refuses that join. -/
theorem isolated_from_held_join :
    let A := "/eth2/00000000/beacon_block/ssz_snappy"
    let B := "/eth2/00000000/voluntary_exit/ssz_snappy"
    let moves : List Move := [
      .overlays (some (.setRule (.hold .join (some A))))
        (some (.setRule (.refuse .join (some A) "refused"))),
      .both (.addController .genesis .standard), .both (.act 0 (.start .zero false)),
      .both .runTasks,
      .overlays (some (.release (.accept .join (some A)))) none, .both .runTasks]
    genesis.Reachable ∧ Fair A genesis genesis moves ∧ B ≠ A ∧
      (∀ k, SameOn B (genesis.run (here (moves.take k))) (genesis.run (there (moves.take k)))) ∧
      ((genesis.run (there moves)).hub.overlay.endpoint? A).isSome = false ∧
      ((genesis.run (here moves)).hub.overlay.endpoint? A).isSome = true ∧
      ((genesis.run (here (moves.take 4))).hub.overlay.endpoint? B).isSome = true := by
  intro A B moves
  have fair : Fair A genesis genesis moves :=
    ⟨fair_setRule _ _ rfl rfl, rfl, rfl, rfl, fair_release _ _ rfl, rfl, trivial⟩
  have apart : B ≠ A := by decide
  exact ⟨reachable_genesis, fair, apart, fun k => isolated reachable_genesis fair k apart,
    by decide +kernel, by decide +kernel, by decide +kernel⟩

end BeaconGossip.Node
