import BeaconGossip.GossipObject
import BeaconGossip.Proofs.Channel.Run
import BeaconGossip.Scenario

namespace BeaconGossip

namespace Overlay

open Scenario

/-- The overlay after payloads have been published one after the other. -/
def published (o : Overlay) (output : List (String × Bytes)) : Overlay :=
  output.foldl (fun o entry => (o.call entry.1 (.publish entry.2)).1) o

theorem published_append (o : Overlay) (output output' : List (String × Bytes)) :
    o.published (output ++ output') = (o.published output).published output' :=
  List.foldl_append

theorem passes_published (o : Overlay) (output : List (String × Bytes)) (topic : String) :
    Passes topic o (o.published output) := by
  induction output generalizing o with
  | nil => exact .refl
  | cons entry rest ih => exact (passes_publish o entry.1 entry.2 topic).trans (ih _)

theorem publishCalls_append (calls calls' : List Call) :
    publishCalls (calls ++ calls') = publishCalls calls ++ publishCalls calls' :=
  List.filterMap_append

theorem publishCalls_call (o : Overlay) (topic : String) (payload : Bytes) :
    publishCalls (o.call topic (.publish payload)).1.calls =
      publishCalls o.calls ++ [(topic, payload)] := by
  rw [call_calls, publishCalls_append]
  simp [publishCalls, made_action, made_topic]

theorem publishCalls_published (o : Overlay) (output : List (String × Bytes)) :
    publishCalls (o.published output).calls = publishCalls o.calls ++ output := by
  induction output generalizing o with
  | nil => exact (List.append_nil _).symm
  | cons entry rest ih =>
    rw [published, List.foldl_cons, ← published, ih, publishCalls_call, List.append_assoc,
      List.singleton_append]

/-- What the caller asks for, whatever the reply. -/
def Call.request (c : Call) : String × Action := (c.topic, c.action)

/-- Replies make no difference to what has been published. -/
theorem publishCalls_congr {calls calls' : List Call}
    (h : calls.map (·.request) = calls'.map (·.request)) :
    publishCalls calls = publishCalls calls' := by
  induction calls generalizing calls' with
  | nil =>
    rw [List.map_nil, eq_comm, List.map_eq_nil_iff] at h
    rw [h]
  | cons c calls ih =>
    cases calls' with
    | nil => cases h
    | cons c' calls' =>
      rw [List.map_cons, List.map_cons, List.cons.injEq] at h
      obtain ⟨hrequest, hrest⟩ := h
      have ht : c.topic = c'.topic := congrArg (·.1) hrequest
      have ha : c.action = c'.action := congrArg (·.2) hrequest
      have hcalls := ih hrest
      rw [publishCalls] at hcalls
      simp only [publishCalls, List.filterMap_cons, ht, ha, hcalls]

theorem publishCalls_call_of_ne (o : Overlay) (topic : String) {a : Action}
    (ha : a.kind ≠ .publish) : publishCalls (o.call topic a).1.calls = publishCalls o.calls := by
  rw [call_calls, publishCalls_append]
  cases a with
  | join => simp [publishCalls, made_action]
  | leave => simp [publishCalls, made_action]
  | publish => exact (ha rfl).elim

theorem answer_requests (o : Overlay) (n : Nat) (r : Reply) :
    (o.answer n r).calls.map (·.request) = o.calls.map (·.request) := by
  unfold answer
  split
  · rfl
  · rename_i c hc
    split
    · have hn : (o.calls.map (·.request))[n]? = some c.request := by
        rw [List.getElem?_map, hc, Option.map_some]
      obtain ⟨hlt, he⟩ := List.getElem?_eq_some_iff.1 hn
      exact (List.map_set ..).trans (he ▸ List.set_getElem_self hlt)
    · rfl

theorem publishCalls_answer (o : Overlay) (n : Nat) (r : Reply) :
    publishCalls (o.answer n r).calls = publishCalls o.calls := by
  apply publishCalls_congr
  exact o.answer_requests n r

theorem requests_answer (r : Release) (most : Nat) (calls : List Call) :
    (r.answer most calls).1.map (·.request) = calls.map (·.request) := by
  fun_induction r.answer most calls with
  | case1 => rfl
  | case2 => rfl
  | case3 most c rest hc c' rest' answered he ih =>
    rw [he] at ih
    exact congrArg (c.request :: ·) ih
  | case4 most c rest hc rest' answered he ih =>
    rw [he] at ih
    exact congrArg (c.request :: ·) ih

theorem publishCalls_release (o : Overlay) (r : Release) :
    publishCalls (o.release r).2.calls = publishCalls o.calls :=
  publishCalls_congr (requests_answer r _ o.calls)

end Overlay

namespace Channel

theorem publishCalls_poll (c : Channel) (h : Hub) :
    Scenario.publishCalls (c.poll h).2.overlay.calls = Scenario.publishCalls h.overlay.calls := by
  have hp := c.polled h
  generalize c.poll h = p at hp ⊢
  cases hp with
  | resting => rfl
  | held => rfl
  | answered => rfl
  | agreed => rfl
  | called => exact Overlay.publishCalls_call_of_ne _ _ c.action_kind
  | replied => exact Overlay.publishCalls_call_of_ne _ _ c.action_kind

def output (c : Channel) (payload : Bytes) : List (String × Bytes) :=
  if c.limit < payload.length then [] else [(c.topic, payload)]

theorem published_publish (c : Channel) (payload : Bytes) (h : Hub) :
    (c.publish payload h).2.overlay = h.overlay.published (c.output payload) := by
  unfold publish output
  split <;> rfl

end Channel

namespace TopicManager

def output (m : TopicManager) (message : Message) : List (String × Bytes) :=
  if m.isActive then m.channel.output message.encode else []

theorem published_gossip (m : TopicManager) (message : Message) (h : Hub) :
    (m.gossip message h).2.overlay = h.overlay.published (m.output message) := by
  unfold gossip output
  split
  · exact m.channel.published_publish ..
  · rfl

theorem published_offer (m : TopicManager) (message : Message) (h : Hub) :
    (m.offer message h).2.overlay = h.overlay.published (m.output message) :=
  m.published_gossip message _

/-- Whether the manager takes up what is offered, so that the mark is set. -/
def takes (m : TopicManager) (a : GossipAttestation) : Bool := a.aggregate.isSome && m.isActive

def aggregateOutput (m : TopicManager) (a : GossipAttestation) : List (String × Bytes) :=
  match a.aggregate with
  | none => []
  | some aggregate =>
    if m.isActive && !a.gossiped then m.channel.output (Message.aggregate aggregate).encode else []

theorem published_offerAggregate (m : TopicManager) (a : GossipAttestation) (h : Hub) :
    (m.offerAggregate a h).2.overlay = h.overlay.published (m.aggregateOutput a) := by
  unfold offerAggregate aggregateOutput
  cases a.aggregate with
  | none => rfl
  | some aggregate =>
    simp only
    by_cases hm : m.isActive = true
    · cases hg : a.gossiped with
      | true => simp [hm, GossipAttestation.mark, hg, Hub.count, Overlay.published]
      | false =>
        simp only [hm, GossipAttestation.mark, hg, Bool.not_false, Bool.and_self, if_true]
        rw [published_gossip, output, if_pos hm]
        rfl
    · simp [hm, Hub.count, Overlay.published]

theorem offerAggregate_mark (m : TopicManager) (a : GossipAttestation) (h : Hub) :
    (m.offerAggregate a h).1 = if m.takes a then { a with gossiped := true } else a := by
  unfold offerAggregate takes
  cases ha : a.aggregate with
  | none => rfl
  | some aggregate =>
    by_cases hm : m.isActive = true
    · cases hg : a.gossiped <;> simp [hm, GossipAttestation.mark, hg, ha]
    · simp [hm]

end TopicManager

namespace SubnetSet

def gossipOutput (s : SubnetSet) (a : GossipAttestation) : List (String × Bytes) :=
  ((s.channel? (a.subnet s.count)).getD (s.newChannel (a.subnet s.count))).output
    (Message.attestation a.attestation).encode

theorem published_gossip (s : SubnetSet) (a : GossipAttestation) (h : Hub) :
    (s.gossip a h).2.2.overlay = h.overlay.published (s.gossipOutput a) :=
  Channel.published_publish ..

/-- Whether the set takes up what is offered, so that the mark is set. -/
def takes (s : SubnetSet) (a : GossipAttestation) : Bool := a.aggregate.isNone && s.enabled

def output (s : SubnetSet) (a : GossipAttestation) : List (String × Bytes) :=
  if s.takes a && !a.gossiped then s.gossipOutput a else []

theorem published_offer (s : SubnetSet) (a : GossipAttestation) (h : Hub) :
    (s.offer a h).2.2.overlay = h.overlay.published (s.output a) := by
  unfold offer output takes
  by_cases ht : (a.aggregate.isNone && s.enabled) = true
  · cases hg : a.gossiped with
    | true => simp [ht, GossipAttestation.mark, hg, Hub.count, Overlay.published]
    | false =>
      simp only [ht, GossipAttestation.mark, hg, Bool.not_false, Bool.and_self, if_true]
      exact s.published_gossip ..
  · simp [ht, Hub.count, Overlay.published]

theorem offer_mark (s : SubnetSet) (a : GossipAttestation) (h : Hub) :
    (s.offer a h).1 = if s.takes a then { a with gossiped := true } else a := by
  unfold offer takes
  by_cases ht : (a.aggregate.isNone && s.enabled) = true
  · cases hg : a.gossiped <;> simp [ht, GossipAttestation.mark, hg]
  · simp [ht]

end SubnetSet

namespace Managers

def output (m : Managers) (message : Message) : List (String × Bytes) :=
  ((m.topic? message.cls).map (·.output message)).getD []

/-- The output on the subnet and that on the aggregate topic; one of them is empty. -/
def attestationOutput (m : Managers) (a : GossipAttestation) : List (String × Bytes) :=
  m.attestation.output a ++ ((m.topic? .aggregate).map (·.aggregateOutput a)).getD []

def takes (m : Managers) (a : GossipAttestation) : Bool :=
  m.attestation.takes a || (m.topic? .aggregate).any (·.takes a)

end Managers

namespace Controller

def output (c : Controller) (message : Message) : List (String × Bytes) :=
  (c.managers.map (·.output message)).getD []

theorem published_publish (c : Controller) (message : Message) (h : Hub) :
    (c.publish message h).2.overlay = h.overlay.published (c.output message) := by
  unfold publish output
  cases c.managers with
  | none => rfl
  | some m =>
    simp only [Option.map_some, Option.getD_some, Managers.output]
    cases m.topic? message.cls with
    | none => rfl
    | some t => exact t.published_offer message h

def attestationOutput (c : Controller) (a : GossipAttestation) : List (String × Bytes) :=
  (c.managers.map (·.attestationOutput a)).getD []

/-- Whether one of the managers takes up the attestation, so that its mark is set. -/
def takes (c : Controller) (a : GossipAttestation) : Bool := c.managers.any (·.takes a)

/-- An attestation that the subnets have taken up is of no interest to the aggregate topic. -/
theorem aggregateOutput_offer (t : TopicManager) (s : SubnetSet) (a : GossipAttestation)
    (h : Hub) : t.aggregateOutput (s.offer a h).1 = t.aggregateOutput a := by
  rw [SubnetSet.offer_mark]
  split
  case isTrue ht =>
    rw [SubnetSet.takes, Bool.and_eq_true, Option.isNone_iff_eq_none] at ht
    simp [TopicManager.aggregateOutput, ht.1]
  case isFalse => rfl

theorem published_publishAttestation (c : Controller) (a : GossipAttestation) (h : Hub) :
    (c.publishAttestation a h).2.2.overlay = h.overlay.published (c.attestationOutput a) := by
  unfold publishAttestation attestationOutput
  cases c.managers with
  | none => rfl
  | some m =>
    have hs := m.attestation.published_offer a h
    simp only [Option.map_some, Option.getD_some, Managers.attestationOutput]
    cases m.topic? .aggregate with
    | none =>
      simp only [Option.map_none, Option.getD_none, List.append_nil]
      exact hs
    | some t =>
      simp only [Option.map_some, Option.getD_some, Overlay.published_append, ← hs]
      rw [t.published_offerAggregate, aggregateOutput_offer]

theorem attestationOutput_gossiped (c : Controller) {a : GossipAttestation}
    (hg : a.gossiped = true) : c.attestationOutput a = [] := by
  have ht (t : TopicManager) : t.aggregateOutput a = [] := by
    rw [TopicManager.aggregateOutput, hg]
    cases a.aggregate <;> simp
  unfold attestationOutput
  cases c.managers with
  | none => rfl
  | some m =>
    rw [Option.map_some, Option.getD_some, Managers.attestationOutput, SubnetSet.output, hg]
    cases m.topic? .aggregate <;> simp [ht]

theorem publishAttestation_mark (c : Controller) (a : GossipAttestation) (h : Hub) :
    (c.publishAttestation a h).1 = if c.takes a then { a with gossiped := true } else a := by
  unfold publishAttestation takes
  cases c.managers with
  | none => rfl
  | some m =>
    have hs := m.attestation.offer_mark a h
    rw [Option.any_some]
    cases ht : m.topic? .aggregate with
    | none =>
      have he : m.takes a = m.attestation.takes a := by simp [Managers.takes, ht]
      rw [he, ← hs]
      simp only [ht]
    | some t =>
      have he : m.takes a = (m.attestation.takes a || t.takes a) := by simp [Managers.takes, ht]
      rw [he]
      simp only [ht, t.offerAggregate_mark, hs]
      cases hst : m.attestation.takes a with
      | true =>
        rw [SubnetSet.takes, Bool.and_eq_true, Option.isNone_iff_eq_none] at hst
        simp [TopicManager.takes, hst.1]
      | false => simp

end Controller

end BeaconGossip
