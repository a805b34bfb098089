import BeaconGossip.Proofs.Node.Perform
import BeaconGossip.Proofs.Overlay.Beyond

namespace BeaconGossip

open Overlay (Ticket)

namespace Overlay

variable {P : String → Prop} {o o' : Overlay} {far : String → Bool} {output : List (String × Bytes)}

/-- The tickets of payloads that are published one after the other. -/
def tickets (o : Overlay) : List (String × Bytes) → List Ticket
  | [] => []
  | entry :: rest =>
    (o.call entry.1 (.publish entry.2)).2 :: tickets (o.call entry.1 (.publish entry.2)).1 rest

theorem tickets_append (o : Overlay) (output output' : List (String × Bytes)) :
    o.tickets (output ++ output') = o.tickets output ++ (o.published output).tickets output' := by
  induction output generalizing o with
  | nil => rfl
  | cons entry rest ih =>
    rw [List.cons_append, tickets, tickets, ih, List.cons_append]
    rfl

theorem Beyond.tickets (h : Beyond P o o') (hf : ∀ t, far t = true → ¬ P t)
    (output : List (String × Bytes)) :
    (o'.tickets output).filter (far ·.topic) = (o.tickets output).filter (far ·.topic) := by
  induction output generalizing o o' with
  | nil => rfl
  | cons entry rest ih =>
    have rest := ih (h.call entry.1 (.publish entry.2))
    rw [Overlay.tickets, Overlay.tickets, call_ticket, call_ticket]
    cases on : far entry.1 with
    | true =>
      rw [List.filter_cons_of_pos (by simp [on]), List.filter_cons_of_pos (by simp [on]), rest,
        h.callsOn (hf entry.1 on)]
    | false =>
      rw [List.filter_cons_of_neg (by simp [on]), List.filter_cons_of_neg (by simp [on]), rest]

theorem beyond_published (near : ∀ entry ∈ output, P entry.1) (o : Overlay) :
    Beyond P o (o.published output) := by
  induction output generalizing o with
  | nil => exact .refl P o
  | cons entry rest ih =>
    rw [List.forall_mem_cons] at near
    exact (beyond_call o near.1 (.publish entry.2)).trans (ih near.2 _)

theorem tickets_near (near : ∀ entry ∈ output, P entry.1) (hf : ∀ t, far t = true → ¬ P t)
    (o : Overlay) : (o.tickets output).filter (far ·.topic) = [] := by
  induction output generalizing o with
  | nil => rfl
  | cons entry rest ih =>
    rw [List.forall_mem_cons] at near
    have off : ¬ far entry.1 = true := fun on => hf entry.1 on near.1
    rw [tickets, call_ticket, List.filter_cons_of_neg (by simpa using off)]
    exact ih near.2 _

theorem callsOn_published {topic : String} (apart : ∀ entry ∈ output, entry.1 ≠ topic)
    (o : Overlay) : (o.published output).callsOn topic = o.callsOn topic := by
  have beyond := beyond_published (P := (· ≠ topic)) apart o
  exact beyond.callsOn (not_not_intro rfl)

end Overlay

namespace Hub

/-- The calls by which payloads have been handed over, each with whether its outcome has been
reported. -/
def outcomes (h : Hub) : List (Ticket × Bool) := h.publications.map fun p => (p.ticket, p.reported)

/-- The outcomes once some more payloads have been handed over. -/
def noting (h : Hub) (output : List (String × Bytes)) : List (Ticket × Bool) :=
  h.outcomes ++ (h.overlay.tickets output).map (·, false)

theorem noting_nil (h : Hub) : h.noting [] = h.outcomes := List.append_nil _

theorem noting_append {h h' : Hub} {output : List (String × Bytes)}
    (overlay : h'.overlay = h.overlay.published output) (outcomes : h'.outcomes = h.noting output)
    (output' : List (String × Bytes)) : h'.noting output' = h.noting (output ++ output') := by
  rw [noting, outcomes, overlay, noting, noting, Overlay.tickets_append, List.map_append,
    List.append_assoc]

theorem reportOne_ticks (overlay : Overlay) (r : Registry) (p : Publication) :
    ((reportOne overlay r p).2.ticket, (reportOne overlay r p).2.reported) =
      (p.ticket, p.reported || (overlay.reply? p.ticket).isSome) := by
  unfold reportOne
  split
  case h_1 unreported reply => rw [unreported, reply]; rfl
  case h_2 other =>
    cases hp : p.reported with
    | true => rfl
    | false =>
      cases hr : overlay.reply? p.ticket with
      | none => rfl
      | some reply => exact (other reply hp hr).elim

theorem outcomes_report (h : Hub) :
    h.report.outcomes = h.outcomes.map fun p => (p.1, p.2 || (h.overlay.reply? p.1).isSome) := by
  have all (overlay : Overlay) (r : Registry) (publications : List Publication) :
      (reportAll overlay r publications).2.map (fun p => (p.ticket, p.reported)) =
        publications.map fun p => (p.ticket, p.reported || (overlay.reply? p.ticket).isSome) := by
    induction publications generalizing r with
    | nil => rfl
    | cons p rest ih =>
      rw [reportAll, List.map_cons, List.map_cons]
      exact congrArg₂ List.cons (reportOne_ticks overlay r p) (ih _)
  rw [report, outcomes, outcomes, List.map_map]
  exact all h.overlay h.registry h.publications

theorem result?_sent (h : Hub) (t : Ticket) :
    h.result? (.sent t) =
      if (t, true) ∈ h.outcomes then (h.overlay.reply? t).map (·.result) else none := by
  have ticked : (h.publications.any fun p => p.ticket = t ∧ p.reported) = true ↔
      (t, true) ∈ h.outcomes := by
    simp [outcomes]
  simp only [result?, ticked]

end Hub

namespace Channel

variable (c : Channel) (payload : Bytes) (h : Hub)

theorem noting_publish : (c.publish payload h).2.outcomes = h.noting (c.output payload) := by
  unfold publish output
  split
  · exact h.noting_nil.symm
  · exact List.map_append

theorem publish_congr {h' : Hub}
    (same : ∀ entry ∈ c.output payload,
      h'.overlay.callsOn entry.1 = h.overlay.callsOn entry.1) :
    (c.publish payload h').1 = (c.publish payload h).1 := by
  unfold output at same
  unfold publish
  split
  case isTrue => rfl
  case isFalse hc =>
    rw [if_neg hc, List.forall_mem_singleton] at same
    exact congrArg (fun calls => Publishing.sent ⟨c.topic, calls.length⟩) same

theorem outcomes_poll : (c.poll h).2.outcomes = h.outcomes := by
  have hp := c.polled h
  generalize c.poll h = p at hp ⊢
  cases hp <;> rfl

end Channel

theorem Endpoint.outcomes_deliver (e : Endpoint) (payload : Bytes) (h : Hub) :
    (e.deliver payload h).2.outcomes = h.outcomes := by
  unfold deliver
  simp only [Hub.count]
  split
  · split <;> rfl
  · rfl

namespace TopicManager

variable (m : TopicManager) (message : Message) (a : GossipAttestation) (h : Hub)

theorem noting_gossip : (m.gossip message h).2.outcomes = h.noting (m.output message) := by
  unfold gossip output
  split
  · exact m.channel.noting_publish ..
  · exact h.noting_nil.symm

theorem noting_offer : (m.offer message h).2.outcomes = h.noting (m.output message) :=
  m.noting_gossip message _

theorem offer_congr {h' : Hub}
    (same : ∀ entry ∈ m.output message,
      h'.overlay.callsOn entry.1 = h.overlay.callsOn entry.1) :
    (m.offer message h').1 = (m.offer message h).1 := by
  unfold output at same
  unfold offer gossip
  split
  case isTrue ha =>
    rw [if_pos ha] at same
    exact m.channel.publish_congr message.encode (h.count _) same
  case isFalse => rfl

theorem noting_offerAggregate :
    (m.offerAggregate a h).2.outcomes = h.noting (m.aggregateOutput a) := by
  unfold offerAggregate aggregateOutput
  cases a.aggregate with
  | none => exact h.noting_nil.symm
  | some aggregate =>
    simp only
    by_cases hm : m.isActive = true
    · cases hg : a.gossiped with
      | true =>
        simp only [hm, GossipAttestation.mark, hg, Bool.not_true, Bool.and_false, if_true,
          Bool.false_eq_true, if_false]
        exact h.noting_nil.symm
      | false =>
        simp only [hm, GossipAttestation.mark, hg, Bool.not_false, Bool.and_self, if_true]
        rw [noting_gossip, output, if_pos hm]
        rfl
    · simp only [hm, Bool.false_eq_true, if_false, Bool.false_and]
      exact h.noting_nil.symm

end TopicManager

namespace SubnetSet

variable (s : SubnetSet) (a : GossipAttestation) (h : Hub)

theorem noting_gossip : (s.gossip a h).2.2.outcomes = h.noting (s.gossipOutput a) :=
  Channel.noting_publish ..

theorem noting_offer : (s.offer a h).2.2.outcomes = h.noting (s.output a) := by
  unfold offer output takes
  by_cases ht : (a.aggregate.isNone && s.enabled) = true
  · cases hg : a.gossiped with
    | true =>
      simp only [ht, GossipAttestation.mark, hg, Bool.not_true, Bool.and_false, if_true,
        Bool.false_eq_true, if_false]
      exact h.noting_nil.symm
    | false =>
      simp only [ht, GossipAttestation.mark, hg, Bool.not_false, Bool.and_self, if_true]
      exact s.noting_gossip ..
  · simp only [ht, Bool.false_eq_true, if_false, Bool.false_and]
    exact h.noting_nil.symm

end SubnetSet

namespace Controller

variable (c : Controller) (message : Message) (a : GossipAttestation) (h : Hub)

theorem noting_publish : (c.publish message h).2.outcomes = h.noting (c.output message) := by
  unfold publish output
  cases c.managers with
  | none => exact h.noting_nil.symm
  | some m =>
    simp only [Option.map_some, Option.getD_some, Managers.output]
    cases m.topic? message.cls with
    | none => exact h.noting_nil.symm
    | some t => exact t.noting_offer message h

theorem publish_congr {h' : Hub}
    (same : ∀ entry ∈ c.output message,
      h'.overlay.callsOn entry.1 = h.overlay.callsOn entry.1) :
    (c.publish message h').1 = (c.publish message h).1 := by
  unfold output at same
  unfold publish
  cases hm : c.managers with
  | none => rfl
  | some m =>
    simp only [hm, Option.map_some, Option.getD_some, Managers.output] at same
    dsimp only
    cases ht : m.topic? message.cls with
    | none => rfl
    | some t =>
      rw [ht] at same
      exact t.offer_congr message h same

theorem noting_publishAttestation :
    (c.publishAttestation a h).2.2.outcomes = h.noting (c.attestationOutput a) := by
  unfold publishAttestation attestationOutput
  cases c.managers with
  | none => exact h.noting_nil.symm
  | some m =>
    have outcomes := m.attestation.noting_offer a h
    have overlay := m.attestation.published_offer a h
    simp only [Option.map_some, Option.getD_some, Managers.attestationOutput]
    cases m.topic? .aggregate with
    | none =>
      simp only [Option.map_none, Option.getD_none, List.append_nil]
      exact outcomes
    | some t =>
      simp only [Option.map_some, Option.getD_some]
      rw [t.noting_offerAggregate, aggregateOutput_offer, Hub.noting_append overlay outcomes]

end Controller

namespace Node

variable {node : Node} {i : Nat} {o : GossipObject}

theorem perform_outcomes (ho : node.objects[i]? = some o) (act : Act) :
    (node.perform i act).2.hub.outcomes = node.hub.noting (o.output node.attestations act) := by
  have plain := node.hub.noting_nil.symm
  cases act with
  | start root head =>
    simp only [perform, Node.start, ho]
    cases o with
    | controller c =>
      dsimp only
      cases c.start root head node.schedule node.hub.registry <;> exact plain
    | _ => exact plain
  | requestSubnet index =>
    simp only [perform, Node.requestSubnet, ho]
    cases o with
    | controller c =>
      dsimp only
      cases c.requestSubnet index node.hub.registry <;> exact plain
    | _ => exact plain
  | releaseSubnet index =>
    simp only [perform, Node.releaseSubnet, ho]
    cases o with
    | controller c =>
      dsimp only
      cases c.releaseSubnet index node.hub.registry <;> exact plain
    | _ => exact plain
  | publish message =>
    simp only [perform, Node.publish, ho]
    cases o with
    | controller c => exact c.noting_publish message node.hub
    | manager m => exact m.noting_offer message node.hub
    | _ => exact plain
  | publishPayload payload =>
    simp only [perform, Node.publishPayload, ho]
    cases o with
    | channel c => exact c.noting_publish payload node.hub
    | _ => exact plain
  | publishAttestation n =>
    simp only [perform, Node.publishAttestation, ho, GossipObject.output]
    cases node.attestations[n]? with
    | none => cases o <;> exact plain
    | some a =>
      cases o with
      | controller c => exact c.noting_publishAttestation a node.hub
      | manager m => exact m.noting_offerAggregate a node.hub
      | subnets s => exact s.noting_offer a node.hub
      | channel c => exact plain
  | gossip n =>
    simp only [perform, Node.gossip, ho, GossipObject.output]
    cases node.attestations[n]? with
    | none => cases o <;> exact plain
    | some a =>
      cases o with
      | subnets s => exact s.noting_gossip a node.hub
      | _ => exact plain
  | _ =>
    simp only [perform, Node.stop, Node.stopOptimistic, Node.subscribe, Node.unsubscribe, ho]
    cases o <;> exact plain

end Node

end BeaconGossip
