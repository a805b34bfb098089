import BeaconGossip.Proofs.Channel.Settlement
import BeaconGossip.Proofs.Node.Channels
import BeaconGossip.Proofs.Overlay.Since

namespace BeaconGossip

namespace Channel

theorem Later.trans {c c' c'' : Channel} {h h' h'' : Hub} {es es' : List Event}
    (later : Later c h es c' h') (later' : Later c' h' es' c'' h'') :
    Later c h (es ++ es') c'' h'' := by
  induction later' with
  | now =>
    rw [List.append_nil]
    exact later
  | step _ step ih =>
    rw [← List.append_assoc]
    exact ih.step step

theorem requestAll_fields (c : Channel) (requests : List Bool) :
    (c.requestAll requests).change = c.change ∧ (c.requestAll requests).confirmed = c.confirmed ∧
      (c.requestAll requests).queued = c.queued + requests.length ∧
      (c.requestAll requests).generation = c.generation + requests.length := by
  induction requests generalizing c with
  | nil => exact ⟨rfl, rfl, rfl, rfl⟩
  | cons wanted rest ih =>
    obtain ⟨hchange, hconfirmed, hqueued, hgeneration⟩ := ih (c.request wanted)
    have hq : (c.request wanted).queued = c.queued + 1 := rfl
    have hg : (c.request wanted).generation = c.generation + 1 := rfl
    refine ⟨hchange, hconfirmed, hqueued.trans ?_, hgeneration.trans ?_⟩ <;>
      rw [List.length_cons] <;> omega

theorem later_requestAll (c : Channel) (h : Hub) (requests : List Bool) :
    ∃ es, Later c h es (c.requestAll requests) h := by
  induction requests generalizing c with
  | nil => exact ⟨[], .now⟩
  | cons wanted rest ih =>
    obtain ⟨es, later⟩ := ih (c.request wanted)
    have first : Later c h [.request wanted] (c.request wanted) h := .step .now (.request c h wanted)
    exact ⟨_, first.trans later⟩

theorem Later.endpoint_eq {c c' : Channel} {h h' : Hub} {es : List Event}
    (later : Later c h es c' h') : c'.endpoint = c.endpoint := by
  induction later with
  | now => rfl
  | step _ step ih => exact step.endpoint_eq.trans ih

end Channel

namespace Node

open Overlay Channel

/-- The number of requests that the channel has received so far. -/
def generation (node : Node) (a : Address) : Nat := ((node.channel? a).map (·.generation)).getD 0

/-- The joins and leaves of the topic that were made after an earlier node. -/
def changesSince (node before : Node) (topic : String) : List Call :=
  Overlay.changesSince (before.hub.overlay.callsOn topic).length (node.hub.overlay.callsOn topic)

theorem run_run (node : Node) (es es' : List Event) : (node.run es).run es' = node.run (es ++ es') :=
  List.foldl_append.symm

/-- The channel at the address, if there is one, has gone on from the one node to the other. -/
def Continues (node node' : Node) (a : Address) : Prop :=
  ∀ d, node.channel? a = some d →
    ∃ d' es, node'.channel? a = some d' ∧ Later d node.hub es d' node'.hub

variable {node node' node'' : Node} {a : Address}

theorem Continues.refl (node : Node) (a : Address) : node.Continues node a :=
  fun d hd => ⟨d, [], hd, .now⟩

theorem Continues.trans (h : node.Continues node' a) (h' : node'.Continues node'' a) :
    node.Continues node'' a := by
  intro d hd
  obtain ⟨d', es, hd', later⟩ := h d hd
  obtain ⟨d'', es', hd'', later'⟩ := h' d' hd'
  exact ⟨d'', es ++ es', hd'', later.trans later'⟩

theorem Serves.continues (h : node.Serves node') (ho : node.Ordered) (a : Address) :
    node.Continues node' a := by
  intro d hd
  obtain ⟨e, limit, hg⟩ := h.grown ho a
  rw [hd] at hg
  generalize hd' : node'.channel? a = after at hg
  cases hg with
  | kept _ requests =>
    obtain ⟨es, later⟩ := later_requestAll d node.hub requests
    exact ⟨_, _, rfl, later.step (.aside _ (h.passes _))⟩

theorem continues_turn (node : Node) (a b : Address)
    (apart : ∀ d db, node.channel? a = some d → node.channel? b = some db → db.topic = d.topic →
      b = a) : node.Continues (node.poll b) a := by
  intro d hd
  cases hdb : node.channel? b with
  | none =>
    rw [poll_none hdb]
    exact Continues.refl node a d hd
  | some db =>
    have hhub : (node.poll b).hub = (db.poll node.hub).2 := by rw [poll_some hdb]
    rw [channel?_poll hdb, hhub]
    -- The channel's own turn is a step of it; that of one with another topic happens aside.
    by_cases hab : a = b
    · subst hab
      rw [hdb, Option.some.injEq] at hd
      subst hd
      exact ⟨_, _, if_pos rfl, .step .now (.turn db node.hub)⟩
    · have ht : db.topic ≠ d.topic := fun he => hab (apart d db hd hdb he).symm
      exact ⟨d, _, (if_neg hab).trans hd, .step .now (.aside d (passes_poll db node.hub ht))⟩

theorem extends_poll (c : Channel) (h : Hub) (topic : String) :
    Extends (h.overlay.callsOn topic) ((c.poll h).2.overlay.callsOn topic) := by
  have hp := c.polled h
  generalize c.poll h = p at hp ⊢
  cases hp with
  | resting => exact .refl _
  | held => exact .refl _
  | answered => exact .refl _
  | agreed => exact .refl _
  | called => exact extends_call h.overlay c.topic topic c.action
  | replied => exact extends_call h.overlay c.topic topic c.action

theorem Advance.extends (h : Advance node node') (topic : String) :
    Extends (node.hub.overlay.callsOn topic) (node'.hub.overlay.callsOn topic) := by
  cases h with
  | served _ _ passes => exact (passes topic).extends
  | turn a =>
    cases hd : node.channel? a with
    | none =>
      rw [poll_none hd]
      exact .refl _
    | some d =>
      rw [poll_some hd]
      exact extends_poll d node.hub topic

theorem Advances.extends (h : Advances node node') (topic : String) :
    Extends (node.hub.overlay.callsOn topic) (node'.hub.overlay.callsOn topic) := by
  induction h with
  | refl => exact .refl _
  | tail _ advance ih => exact ih.trans (advance.extends topic)

theorem Advance.ordered (h : Advance node node') (ho : node.Ordered) : node'.Ordered := by
  cases h with
  | served ordered => exact ordered ho
  | turn a => exact ho.poll a

theorem Advances.ordered (h : Advances node node') (ho : node.Ordered) : node'.Ordered := by
  induction h with
  | refl => exact ho
  | tail _ advance ih => exact advance.ordered ih

theorem Advances.channel? (h : Advances node node') (ho : node.Ordered) {d : Channel}
    (hd : node.channel? a = some d) :
    ∃ d', node'.channel? a = some d' ∧ d'.endpoint = d.endpoint := by
  induction h with
  | refl => exact ⟨d, hd, rfl⟩
  | tail advances advance ih =>
    obtain ⟨d', hd', he⟩ := ih
    obtain ⟨d'', hd'', he'⟩ := advance.channel? (Advances.ordered advances ho) hd'
    exact ⟨d'', hd'', he'.trans he⟩

theorem Alone.earlier {topic : String} (h : Advances node node') (ho : node.Ordered)
    (alone : node'.Alone a topic) : node.Alone a topic := by
  intro b d hd ht
  obtain ⟨d', hd', he⟩ := h.channel? ho hd
  exact alone b d' hd' ((congrArg Endpoint.topic he).trans ht)

theorem Advances.rooted (h : Advances node node') (hr : node.Rooted) : node'.Rooted := by
  induction h with
  | refl => exact hr
  | tail _ advance ih => exact advance.rooted ih

theorem Advance.continues (h : Advance node node') (ho : node.Ordered)
    (alone : ∀ d, node.channel? a = some d → node.Alone a d.topic) : node.Continues node' a := by
  cases h with
  | served ordered grown passes => exact Serves.continues ⟨ordered, grown, passes⟩ ho a
  | turn b => exact continues_turn node a b fun d db hd hdb ht => alone d hd b db hdb ht

/-- A channel that has its topic for itself in the end goes on whatever happens. -/
theorem Advances.continues (h : Advances node node') (ho : node.Ordered)
    (alone : ∀ d, node'.channel? a = some d → node'.Alone a d.topic) : node.Continues node' a := by
  induction h with
  | refl => exact .refl node a
  | tail advances advance ih =>
    rename_i middle last
    have ho' := Advances.ordered advances ho
    have alone' : ∀ d, middle.channel? a = some d → middle.Alone a d.topic := by
      intro d hd
      obtain ⟨d', hd', he⟩ := advance.channel? ho' hd
      have ht : d'.topic = d.topic := congrArg Endpoint.topic he
      rw [← ht]
      exact (alone d' hd').before advance ho'
    exact (ih alone').trans (advance.continues ho' alone')

theorem advances_run (node : Node) (es : List Event) : Advances node (node.run es) := by
  induction es generalizing node with
  | nil => exact .refl
  | cons e es ih => exact (advances_after node e).trans (ih (node.after e))

end Node

end BeaconGossip
