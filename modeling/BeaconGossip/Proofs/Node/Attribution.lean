import BeaconGossip.Proofs.Node.Channels
import BeaconGossip.Proofs.Overlay.Since

namespace BeaconGossip.Node

open Overlay Channel

/-- The numbers of the joins and leaves of the topic that the object makes when a channel has a turn. -/
def madeInTurn (node : Node) (i : Nat) (topic : String) (a : Address) : List Nat :=
  if a.object = i then newChanges topic node.hub.overlay (node.poll a).hub.overlay else []

def madeInTurns (node : Node) (i : Nat) (topic : String) : List Address → List Nat
  | [] => []
  | a :: rest => node.madeInTurn i topic a ++ (node.poll a).madeInTurns i topic rest

def madeIn (node : Node) (i : Nat) (topic : String) : Event → List Nat
  | .act j act =>
    if j = i then newChanges topic node.hub.overlay (node.after (.act j act)).hub.overlay else []
  | .turn a => node.madeInTurn i topic a
  | .runTasks => node.madeInTurns i topic node.tasks
  | _ => []

def madeDuring (node : Node) (i : Nat) (topic : String) : List Event → List Nat
  | [] => []
  | e :: es => node.madeIn i topic e ++ (node.after e).madeDuring i topic es

/-- The joins and leaves of the topic that the object makes in a run, as they stand in the end. -/
def callsBy (node : Node) (i : Nat) (es : List Event) (topic : String) : List Call :=
  callsAt (node.madeDuring i topic es) ((node.run es).hub.overlay.callsOn topic)

variable {node node' : Node} {i : Nat} {topic : String}

theorem madeDuring_append (node : Node) (i : Nat) (topic : String) (es es' : List Event) :
    node.madeDuring i topic (es ++ es') =
      node.madeDuring i topic es ++ (node.run es).madeDuring i topic es' := by
  induction es generalizing node with
  | nil => rfl
  | cons e es ih =>
    have hrest := ih (node.after e)
    rw [List.cons_append, madeDuring, madeDuring, hrest, List.append_assoc]
    rfl

/-- Only in turns of reconcile tasks are topics joined and left. -/
theorem madeIn_of_unturned {e : Event} (he : e.isTurn = false) : node.madeIn i topic e = [] := by
  cases e with
  | act j act =>
    rw [madeIn]
    split
    · exact newChanges_of_passes ((serves_after node he).passes topic)
    · rfl
  | turn => cases he
  | runTasks => cases he
  | _ => rfl

theorem madeDuring_of_unturned {es : List Event} (he : ∀ e ∈ es, e.isTurn = false) :
    node.madeDuring i topic es = [] := by
  induction es generalizing node with
  | nil => rfl
  | cons e es ih =>
    rw [madeDuring, madeIn_of_unturned (he e List.mem_cons_self), List.nil_append]
    exact ih fun e' hm => he e' (List.mem_cons_of_mem e hm)

/-- What may happen while an object has no part in it. -/
structure Spares (i : Nat) (node node' : Node) : Prop where
  object : node'.objects[i]? = node.objects[i]?
  passes : ∀ topic, node.hub.overlay.Passes topic node'.hub.overlay

theorem spares_after (hi : i < node.objects.length) {e : Event} (he : e.isTurn = false)
    (unasked : ∀ act, e ≠ .act i act) : Spares i node (node.after e) :=
  ⟨objects_after hi he unasked, (serves_after node he).passes⟩

theorem Spares.channel? (h : Spares i node node') (lane : Lane) :
    node'.channel? ⟨i, lane⟩ = node.channel? ⟨i, lane⟩ := by
  rw [Node.channel?, Node.channel?, h.object]

theorem endpoint_of_poll (b : Address) {a : Address} {x : Channel}
    (hx : (node.poll b).channel? a = some x) :
    ∃ y, node.channel? a = some y ∧ x.endpoint = y.endpoint := by
  cases hb : node.channel? b with
  | none =>
    rw [poll_none hb] at hx
    exact ⟨x, hx, rfl⟩
  | some d =>
    rw [channel?_poll hb] at hx
    by_cases hab : a = b
    · rw [if_pos hab, Option.some.injEq] at hx
      subst hx hab
      exact ⟨d, hb, poll_endpoint d node.hub⟩
    · rw [if_neg hab] at hx
      exact ⟨x, hx, rfl⟩

theorem madeInTurn_apart (b : Address)
    (apart : ∀ d, node.channel? b = some d → b.object = i → d.topic ≠ topic) :
    node.madeInTurn i topic b = [] := by
  rw [madeInTurn]
  split
  case isTrue hi =>
    cases hb : node.channel? b with
    | none =>
      rw [poll_none hb]
      exact newChanges_of_passes .refl
    | some d =>
      rw [poll_some hb]
      exact newChanges_of_passes (passes_poll d node.hub (apart d hb hi))
  case isFalse => rfl

section Preserved

variable (P : Node → List Nat → Prop)

theorem sweep_preserves
    (turn : ∀ {node own} a, P node own → P (node.poll a) (own ++ node.madeInTurn i topic a))
    (addresses : List Address) {own : List Nat} (h : P node own) :
    P (node.sweep addresses).1 (own ++ node.madeInTurns i topic addresses) := by
  induction addresses generalizing node own with
  | nil =>
    rw [madeInTurns, List.append_nil]
    exact h
  | cons a rest ih =>
    rw [madeInTurns, ← List.append_assoc]
    exact ih (turn a h)

/-- What turns preserve, and everything in which the object has no part, every event preserves that is
not an act on the object. -/
theorem after_preserves
    (turn : ∀ {node own} a, P node own → P (node.poll a) (own ++ node.madeInTurn i topic a))
    (spared : ∀ {node node' own}, Spares i node node' → P node own → P node' own)
    (hi : i < node.objects.length) {e : Event} (unasked : ∀ act, e ≠ .act i act) {own : List Nat}
    (h : P node own) : P (node.after e) (own ++ node.madeIn i topic e) := by
  cases ht : e.isTurn with
  | false =>
    rw [madeIn_of_unturned ht, List.append_nil]
    exact spared (spares_after hi ht unasked) h
  | true =>
    cases e with
    | turn a => exact turn a h
    | runTasks =>
      have reported : Spares i (node.sweep node.tasks).1 node.runTasks := ⟨rfl, fun _ => .refl⟩
      exact spared reported (sweep_preserves P turn node.tasks h)
    | _ => cases ht

end Preserved

end BeaconGossip.Node
