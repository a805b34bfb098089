import BeaconGossip.Proofs.Controller.Start
import BeaconGossip.Proofs.Node.Gauge
import BeaconGossip.Proofs.Node.Section

namespace BeaconGossip

namespace Node

/-- The section is part of a start of the object. -/
def Section.starts (i : Nat) : Section → Bool
  | .whole (.act j (.start _ _)) => j = i
  | .build j _ => j = i
  | .handOver j => j = i
  | .join j _ => j = i
  | _ => false

def Section.event? : Section → Option Event
  | .whole e => some e
  | _ => none

/-- The events that take only one section, in the order of the sections. -/
def events (sections : List Section) : List Event := sections.filterMap Section.event?

variable {t : Interim} {i : Nat} {s : Section} {count : UInt64} {id : SubnetId}

theorem events_append (sections sections' : List Section) :
    events (sections ++ sections') = events sections ++ events sections' :=
  List.filterMap_append

theorem requested_append {es es' : List Event} :
    Requested count i (es ++ es') id ↔
      match (es'.filterMap (·.subnetRequest i id)).getLast? with
      | some wanted => id.index < count ∧ wanted = true
      | none => Requested count i es id := by
  rw [Requested, List.filterMap_append, List.getLast?_append]
  cases (es'.filterMap (·.subnetRequest i id)).getLast? with
  | some wanted => rw [Option.some_or, Option.some.injEq]
  | none => rw [Option.none_or, Requested]

theorem requested_requests {es : List Event} {ids : List SubnetId}
    (valid : ∀ id ∈ ids, id.index < count) :
    Requested count i (es ++ ids.map fun id => .act i (.requestSubnet id.index)) id ↔
      id ∈ ids ∨ Requested count i es id := by
  induction ids generalizing es with
  | nil => simp
  | cons x rest ih =>
    have hx : x.index < count := valid x List.mem_cons_self
    rw [List.map_cons, List.append_cons, ih fun id hid => valid id (List.mem_cons_of_mem x hid),
      requested_request hx, List.mem_cons, or_left_comm, or_assoc]

theorem Interim.objects_step (t : Interim) (halfway : ∀ e, s ≠ .whole e)
    (apart : s.starts i = false) : (t.step s).node.objects[i]? = t.node.objects[i]? := by
  have set {j : Nat} {o : GossipObject} (hj : decide (j = i) = false) :
      (t.node.objects.set j o)[i]? = t.node.objects[i]? :=
    List.getElem?_set_ne (of_decide_eq_false hj)
  cases s with
  | whole e => exact (halfway e rfl).elim
  | build j root =>
    simp only [step, Node.build]
    split
    · split
      · rfl
      · exact set apart
    · rfl
  | handOver j =>
    simp only [step, Node.handOver]
    split
    · exact set apart
    · rfl
  | join j optimistic =>
    simp only [step, Node.join]
    split
    · exact set apart
    · rfl
  | report n => rfl
  | receive e payload =>
    simp only [step, receive]
    split <;> rfl
  | conclude n v =>
    simp only [step, conclude]
    split <;> rfl

end Node

namespace Controller

open Node (Act Event Interim Section Requested events requested_append requested_other
  requested_requests)

/-- The subnets asked for. They wait until there are managers. -/
def asked (c : Controller) : List SubnetId :=
  match c.managers with
  | none => c.waiting
  | some m => m.attestation.requested

theorem asked_unstarted {c : Controller} (hm : c.managers = none) : c.asked = c.waiting := by
  rw [asked, hm]

theorem asked_waiting {c : Controller} (hm : c.managers = none) (waiting : List SubnetId) :
    { c with waiting := waiting }.asked = waiting := by
  rw [asked, hm]

theorem asked_started {c : Controller} {m : Managers} (hm : c.managers = some m) :
    c.asked = m.attestation.requested := by
  rw [asked, hm]

theorem asked_map {c c' : Controller} {g : Managers → Managers}
    (managers : c'.managers = c.managers.map g) (waiting : c'.waiting = c.waiting)
    (requested : ∀ m, (g m).attestation.requested = m.attestation.requested) :
    c'.asked = c.asked := by
  cases hm : c.managers with
  | none =>
    rw [hm, Option.map_none] at managers
    rw [asked_unstarted managers, asked_unstarted hm, waiting]
  | some m =>
    rw [hm, Option.map_some] at managers
    rw [asked_started managers, asked_started hm, requested]

/-- What becomes of a controller that nobody starts: it heeds what the events ask of it, and of what
matters to a start nothing else changes. -/
structure Heeds (i : Nat) (es : List Event) (c c' : Controller) : Prop where
  fixed : c.Fixed c'
  settings : c'.settings = c.settings
  waiting : c.managers ≠ none → c'.waiting = c.waiting
  asked : ∀ past, (∀ id, id ∈ c.asked ↔ Requested c.settings.subnetCount i past id) →
    ∀ id, id ∈ c'.asked ↔ Requested c.settings.subnetCount i (past ++ es) id

variable {c c' c'' : Controller} {i : Nat} {es es' : List Event}

theorem Fixed.unstarted (h : c.Fixed c') : c'.managers = none ↔ c.managers = none := by
  rw [← identity_eq_none_iff, h.identity, identity_eq_none_iff]

namespace Heeds

theorem refl (i : Nat) (c : Controller) : Heeds i [] c c := by
  refine ⟨.refl c, rfl, fun _ => rfl, fun past h => ?_⟩
  rw [List.append_nil]
  exact h

theorem trans (h : Heeds i es c c') (h' : Heeds i es' c' c'') : Heeds i (es ++ es') c c'' := by
  refine ⟨h.fixed.trans h'.fixed, h'.settings.trans h.settings, ?_, ?_⟩
  · intro started
    have started' := mt h.fixed.unstarted.1 started
    exact (h'.waiting started').trans (h.waiting started)
  · intro past hp
    have asked := h'.asked (past ++ es)
    rw [h.settings, List.append_assoc] at asked
    exact asked (h.asked past hp)

theorem silent {e : Event} (fixed : c.Fixed c') (settings : c'.settings = c.settings)
    (waiting : c'.waiting = c.waiting) (asked : c'.asked = c.asked)
    (he : ∀ id, e.subnetRequest i id = none) : Heeds i [e] c c' := by
  refine ⟨fixed, settings, fun _ => waiting, fun past hp id => ?_⟩
  rw [asked, requested_other (he id)]
  exact hp id

theorem map {e : Event} {g : Managers → Managers} (fixed : c.Fixed c')
    (settings : c'.settings = c.settings) (managers : c'.managers = c.managers.map g)
    (waiting : c'.waiting = c.waiting)
    (requested : ∀ m, (g m).attestation.requested = m.attestation.requested)
    (he : ∀ id, e.subnetRequest i id = none) : Heeds i [e] c c' :=
  .silent fixed settings waiting (asked_map managers waiting requested) he

end Heeds

theorem requested_onLane (m : Managers) (lane : Lane) (f : Channel → Channel) :
    (m.onLane lane f).attestation.requested = m.attestation.requested := by
  cases lane <;> rfl

theorem requested_unsubscribe (m : Managers) (all : Bool) :
    (m.unsubscribe all).attestation.requested = m.attestation.requested := by
  cases all <;> rfl

theorem requested_subscribe (m : Managers) (optimistic : Bool) :
    (m.subscribe optimistic).attestation.requested = m.attestation.requested := by
  cases optimistic with
  | false => exact SubnetSet.subscribe_requested _
  | true => rfl

theorem Turned.heeds (h : c.Turned c') {e : Event} (he : ∀ id, e.subnetRequest i id = none) :
    Heeds i [e] c c' := by
  have kept : c'.settings = c.settings ∧ c'.waiting = c.waiting ∧ c'.asked = c.asked := by
    induction h with
    | same => exact ⟨rfl, rfl, rfl⟩
    | @turn c' lane d hub _ _ ih =>
      obtain ⟨settings, waiting, asked⟩ := ih
      refine ⟨settings, waiting, Eq.trans ?_ asked⟩
      exact asked_map rfl rfl fun m => requested_onLane m lane _
  exact .silent h.fixed kept.1 kept.2.1 kept.2.2 he

theorem heeds_requestSubnet (c : Controller) (node : Node) (i : Nat) (index : UInt64) :
    Heeds i [.act i (.requestSubnet index)] c (c.performed node (.requestSubnet index)) := by
  rw [performed]
  cases hs : c.requestSubnet index node.hub.registry with
  | error e =>
    refine ⟨.refl c, rfl, fun _ => rfl, fun past hp id => ?_⟩
    rw [Node.requested_request_invalid (requestSubnet_error hs)]
    exact hp id
  | ok p =>
    obtain ⟨c', r'⟩ := p
    have fixed := requestSubnet_fixed hs
    obtain ⟨hi, ⟨hm, rfl⟩ | ⟨m, hm, rfl⟩⟩ := requestSubnet_ok hs
    · refine ⟨fixed, rfl, fun started => (started hm).elim, fun past hp id => ?_⟩
      dsimp only
      rw [Node.requested_request hi, ← hp id, asked_unstarted hm, asked_waiting hm]
      exact SubnetId.mem_insert
    · refine ⟨fixed, rfl, fun _ => rfl, fun past hp id => ?_⟩
      rw [Node.requested_request hi, ← hp id, asked_started hm]
      exact SubnetSet.mem_requested_request ..

theorem heeds_releaseSubnet (c : Controller) (node : Node) (i : Nat) (index : UInt64) :
    Heeds i [.act i (.releaseSubnet index)] c (c.performed node (.releaseSubnet index)) := by
  rw [performed]
  cases hs : c.releaseSubnet index node.hub.registry with
  | error e =>
    refine ⟨.refl c, rfl, fun _ => rfl, fun past hp id => ?_⟩
    rw [Node.requested_release_invalid (releaseSubnet_error hs)]
    exact hp id
  | ok p =>
    obtain ⟨c', r'⟩ := p
    have fixed := releaseSubnet_fixed hs
    obtain ⟨hi, ⟨hm, rfl⟩ | ⟨m, hm, rfl⟩⟩ := releaseSubnet_ok hs
    · refine ⟨fixed, rfl, fun started => (started hm).elim, fun past hp id => ?_⟩
      dsimp only
      rw [Node.requested_release, ← hp id, asked_unstarted hm, asked_waiting hm, List.mem_filter,
        decide_eq_true_eq]
    · refine ⟨fixed, rfl, fun _ => rfl, fun past hp id => ?_⟩
      rw [Node.requested_release, ← hp id, asked_started hm]
      exact SubnetSet.mem_requested_release ..

theorem heeds_performed (c : Controller) (node : Node) (i : Nat) {act : Act}
    (other : ∀ root head, act ≠ .start root head) :
    Heeds i [.act i act] c (c.performed node act) := by
  have fixed : c.Fixed (c.performed node act) := performed_fixed other
  cases act with
  | start root head => exact (other root head rfl).elim
  | stop =>
    exact .map fixed rfl rfl rfl (requested_unsubscribe · true) fun _ => subnetRequest_act rfl
  | stopOptimistic =>
    exact .map fixed rfl rfl rfl (requested_unsubscribe · false) fun _ => subnetRequest_act rfl
  | requestSubnet index => exact c.heeds_requestSubnet node i index
  | releaseSubnet index => exact c.heeds_releaseSubnet node i index
  | publishAttestation a =>
    simp only [performed]
    cases node.attestations[a]? with
    | none => exact .silent (.refl c) rfl rfl rfl fun _ => subnetRequest_act rfl
    | some att =>
      have fixed := c.publishAttestation_fixed att node.hub
      dsimp only
      rw [publishAttestation_controller] at fixed ⊢
      apply Heeds.map fixed rfl rfl rfl
      · exact fun m => (m.attestation.offer_fields att node.hub).2
      · exact fun _ => subnetRequest_act rfl
  | subscribe | unsubscribe | publish | publishPayload | gossip =>
    exact .silent fixed rfl rfl rfl fun _ => subnetRequest_act rfl

theorem handOver_unstarted (hm : c.managers = none) (r : Registry) : (c.handOver r).1 = c := by
  rw [handOver, hm]

theorem subscribe_unstarted (hm : c.managers = none) (optimistic : Bool) :
    c.subscribe optimistic = c := by
  rw [subscribe, hm, Option.map_none, ← hm]

theorem build_unstarted (hm : c.managers = none) (root : Root) (schedule : Schedule)
    (r : Registry) :
    (∃ e, c.build root schedule r = .error e) ∨
      ∃ digest schedule' r',
        c.build root schedule r = .ok (c.built root digest, schedule', r') := by
  simp only [build, hm]
  split
  · exact .inl ⟨_, rfl⟩
  · exact .inr ⟨_, _, _, rfl⟩

theorem build_managers {root : Root} {schedule : Schedule} {r : Registry}
    {p : Controller × Schedule × Registry} (h : c.build root schedule r = .ok p) :
    p.1.managers ≠ none := by
  obtain ⟨c', schedule', r'⟩ := p
  obtain ⟨started, rfl, -⟩ | ⟨-, digest, -, rfl, -⟩ := build_ok h
  · exact started
  · exact Option.some_ne_none _

theorem start_managers {root : Root} {optimistic : Bool} {schedule : Schedule} {r : Registry}
    {p : Controller × Schedule × Registry} (h : c.start root optimistic schedule r = .ok p) :
    p.1.managers ≠ none := by
  obtain ⟨c', schedule', r'⟩ := p
  obtain ⟨c₁, r₁, built, rfl, -⟩ := start_build h
  have fixed := c₁.handOver_subscribe_fixed r₁ optimistic
  exact mt fixed.unstarted.1 (build_managers built)

section Nodes

variable {node : Node}

theorem objects_handOver (hc : node.objects[i]? = some (.controller c)) :
    (node.handOver i).objects[i]? = some (.controller (c.handOver node.hub.registry).1) := by
  simp only [Node.handOver, hc]
  exact objects_put hc rfl

theorem objects_join (hc : node.objects[i]? = some (.controller c)) (optimistic : Bool) :
    (node.join i optimistic).objects[i]? = some (.controller (c.subscribe optimistic)) := by
  simp only [Node.join, hc]
  exact objects_put hc rfl

theorem objects_build (hc : node.objects[i]? = some (.controller c)) (hm : c.managers = none)
    (root : Root) :
    (∃ e, (node.build i root).1 = .error e ∧
        (node.build i root).2.objects[i]? = some (.controller c)) ∨
      ∃ digest, (node.build i root).1 = .ok () ∧
        (node.build i root).2.objects[i]? = some (.controller (c.built root digest)) := by
  simp only [Node.build, hc]
  obtain ⟨e, he⟩ | ⟨digest, schedule, r, hb⟩ :=
    build_unstarted hm root node.schedule node.hub.registry
  · rw [he]
    exact .inl ⟨e, rfl, hc⟩
  · rw [hb]
    exact .inr ⟨digest, rfl, objects_put hc rfl⟩

end Nodes

section Sections

variable {t : Interim} {s : Section}

theorem heeds_step (hc : t.node.objects[i]? = some (.controller c)) (apart : s.starts i = false) :
    ∃ c', (t.step s).node.objects[i]? = some (.controller c') ∧ Heeds i (events [s]) c c' := by
  by_cases hs : ∃ e, s = .whole e
  · obtain ⟨e, rfl⟩ := hs
    by_cases he : ∃ act, e = .act i act
    · obtain ⟨act, rfl⟩ := he
      refine ⟨_, objects_perform hc act, heeds_performed c t.node i ?_⟩
      rintro root head rfl
      exact (of_decide_eq_false apart) rfl
    · have hne : ∀ act, e ≠ .act i act := fun act h => he ⟨act, h⟩
      obtain ⟨c', hc', turned⟩ := turned_after hc hne
      exact ⟨c', hc', turned.heeds fun id => Event.subnetRequest_other hne⟩
  · have halfway : ∀ e, s ≠ .whole e := fun e h => hs ⟨e, h⟩
    refine ⟨c, (t.objects_step halfway apart).trans hc, ?_⟩
    have none : events [s] = [] := by
      cases s with
      | whole e => exact (halfway e rfl).elim
      | _ => rfl
    rw [none]
    exact .refl i c

theorem unstarted_step (hc : t.node.objects[i]? = some (.controller c)) (own : s.starts i = true) :
    ∃ c', (t.step s).node.objects[i]? = some (.controller c') ∧ (c'.managers = none → c' = c) := by
  cases s with
  | whole e =>
    cases e with
    | act j act =>
      cases act with
      | start root head =>
        obtain rfl : j = i := of_decide_eq_true own
        refine ⟨_, objects_perform hc (.start root head), ?_⟩
        rw [performed]
        cases hs : c.start root head t.node.schedule t.node.hub.registry with
        | error e => exact fun _ => rfl
        | ok p => exact fun hm => (start_managers hs hm).elim
      | _ => cases own
    | _ => cases own
  | build j root =>
    obtain rfl : j = i := of_decide_eq_true own
    simp only [Interim.step, Node.build, hc]
    cases hb : c.build root t.node.schedule t.node.hub.registry with
    | error e => exact ⟨c, hc, fun _ => rfl⟩
    | ok p => exact ⟨p.1, objects_put hc rfl, fun hm => (build_managers hb hm).elim⟩
  | handOver j =>
    obtain rfl : j = i := of_decide_eq_true own
    refine ⟨_, objects_handOver hc, ?_⟩
    cases hm : c.managers with
    | none => exact fun _ => handOver_unstarted hm _
    | some m =>
      rw [handOver_started hm]
      exact fun h => by cases h
  | join j optimistic =>
    obtain rfl : j = i := of_decide_eq_true own
    refine ⟨_, objects_join hc optimistic, ?_⟩
    intro hm
    exact subscribe_unstarted (Option.map_eq_none_iff.1 hm) optimistic
  | _ => cases own

theorem heeds_run {sections : List Section} (apart : ∀ s ∈ sections, s.starts i = false)
    (hc : t.node.objects[i]? = some (.controller c)) :
    ∃ c', (t.run sections).node.objects[i]? = some (.controller c') ∧
      Heeds i (events sections) c c' := by
  induction sections generalizing t c with
  | nil => exact ⟨c, hc, .refl i c⟩
  | cons s rest ih =>
    obtain ⟨c₁, hc₁, h₁⟩ := heeds_step hc (apart s List.mem_cons_self)
    obtain ⟨c₂, hc₂, h₂⟩ := ih (fun s' hs => apart s' (List.mem_cons_of_mem s hs)) hc₁
    have heeds := h₁.trans h₂
    rw [← Node.events_append, List.singleton_append] at heeds
    exact ⟨c₂, hc₂, heeds⟩

theorem heeds_own (own : s.starts i = true) (c : Controller) : Heeds i (events [s]) c c := by
  cases s with
  | whole e =>
    cases e with
    | act j act =>
      cases act with
      | start root head =>
        have silent (id : SubnetId) :
            Event.subnetRequest i id (.act j (.start root head)) = none := by
          rw [Event.subnetRequest]
          split <;> rfl
        exact .silent (.refl c) rfl rfl rfl silent
      | _ => cases own
    | _ => cases own
  | build | handOver | join => exact .refl i c
  | _ => cases own

/-- As long as no start has succeeded, all that was asked for waits. -/
theorem heeds_until (sections : List Section) (hc : t.node.objects[i]? = some (.controller c)) :
    ∃ c', (t.run sections).node.objects[i]? = some (.controller c') ∧
      (c'.managers = none → Heeds i (events sections) c c') := by
  induction sections generalizing t c with
  | nil => exact ⟨c, hc, fun _ => .refl i c⟩
  | cons s rest ih =>
    have first : ∃ c₁, (t.step s).node.objects[i]? = some (.controller c₁) ∧
        (c₁.managers = none → Heeds i (events [s]) c c₁) := by
      cases own : s.starts i with
      | false =>
        obtain ⟨c₁, hc₁, h₁⟩ := heeds_step hc own
        exact ⟨c₁, hc₁, fun _ => h₁⟩
      | true =>
        obtain ⟨c₁, hc₁, same⟩ := unstarted_step hc own
        refine ⟨c₁, hc₁, fun hm => ?_⟩
        rw [same hm]
        exact heeds_own own c
    obtain ⟨c₁, hc₁, h₁⟩ := first
    obtain ⟨c₂, hc₂, h₂⟩ := ih hc₁
    refine ⟨c₂, hc₂, fun hm => ?_⟩
    have later := h₂ hm
    have heeds := (h₁ (later.fixed.unstarted.1 hm)).trans later
    rw [← Node.events_append, List.singleton_append] at heeds
    exact heeds

end Sections

/-- The requests by which waiting subnets are handed over. -/
def handedOver (i : Nat) (waiting : List SubnetId) : List Event :=
  waiting.map fun id => .act i (.requestSubnet id.index)

/-- To hand subnets over is to request them now, after all that has been asked of the managers. -/
theorem asked_handOver {m : Managers} (hm : c.managers = some m) (r : Registry)
    (past : List Event)
    (valid : ∀ id ∈ c.waiting, id.index < c.settings.subnetCount)
    (hp : ∀ id, id ∈ c.asked ↔ Requested c.settings.subnetCount i past id) (id : SubnetId) :
    id ∈ (c.handOver r).1.asked ↔
      Requested c.settings.subnetCount i (past ++ handedOver i c.waiting) id := by
  rw [handOver_started hm, handedOver, requested_requests valid, ← hp id, asked_started hm]
  exact SubnetSet.mem_requested_requests ..

theorem heeds_join (i : Nat) (c : Controller) (optimistic : Bool) :
    Heeds i [] c (c.subscribe optimistic) := by
  have asked : (c.subscribe optimistic).asked = c.asked :=
    asked_map rfl rfl (requested_subscribe · optimistic)
  refine ⟨c.subscribe_fixed optimistic, rfl, fun _ => rfl, fun past hp id => ?_⟩
  rw [asked, List.append_nil]
  exact hp id

section Start

variable {t : Interim} {gap between rest : List Section}

theorem run_start (t : Interim) (i : Nat) (gap between rest : List Section) (root : Root)
    (optimistic : Bool) :
    t.run (.build i root :: gap ++ .handOver i :: between ++ .join i optimistic :: rest) =
      ((((((t.step (.build i root)).run gap).step (.handOver i)).run between).step
        (.join i optimistic)).run rest) := by
  simp only [Interim.run, List.foldl_append, List.foldl_cons]

theorem heeds_rest (apart : ∀ s ∈ between ++ rest, s.starts i = false)
    (hc : t.node.objects[i]? = some (.controller c)) (optimistic : Bool) :
    ∃ c', (((t.run between).step (.join i optimistic)).run rest).node.objects[i]? =
        some (.controller c') ∧ Heeds i (events (between ++ rest)) c c' := by
  obtain ⟨c₁, hc₁, h₁⟩ := heeds_run (fun s hs => apart s (List.mem_append_left rest hs)) hc
  have joined := objects_join hc₁ optimistic
  obtain ⟨c₂, hc₂, h₂⟩ := heeds_run (t := (t.run between).step (.join i optimistic))
    (fun s hs => apart s (List.mem_append_right between hs)) joined
  refine ⟨c₂, hc₂, ?_⟩
  have heeds := (h₁.trans (heeds_join i c₁ optimistic)).trans h₂
  rw [List.append_nil, ← Node.events_append] at heeds
  exact heeds

variable (apart : ∀ s ∈ gap ++ (between ++ rest), s.starts i = false)

include apart

theorem heeds_failed (hc : t.node.objects[i]? = some (.controller c)) (hm : c.managers = none)
    (optimistic : Bool) :
    ∃ c', (((((t.run gap).step (.handOver i)).run between).step
        (.join i optimistic)).run rest).node.objects[i]? = some (.controller c') ∧
      Heeds i (events (gap ++ (between ++ rest))) c c' := by
  obtain ⟨c₁, hc₁, h₁⟩ := heeds_run (fun s hs => apart s (List.mem_append_left _ hs)) hc
  have handed := objects_handOver hc₁
  rw [handOver_unstarted (h₁.fixed.unstarted.2 hm)] at handed
  obtain ⟨c₂, hc₂, h₂⟩ := heeds_rest (t := (t.run gap).step (.handOver i))
    (fun s hs => apart s (List.mem_append_right gap hs)) handed optimistic
  refine ⟨c₂, hc₂, ?_⟩
  rw [Node.events_append]
  exact h₁.trans h₂

theorem asked_succeeded (past : List Event) (hc : t.node.objects[i]? = some (.controller c))
    (hm : c.managers ≠ none) (valid : ∀ id ∈ c.waiting, id.index < c.settings.subnetCount)
    (hp : ∀ id, id ∈ c.asked ↔ Requested c.settings.subnetCount i past id) (optimistic : Bool) :
    ∃ c', (((((t.run gap).step (.handOver i)).run between).step
        (.join i optimistic)).run rest).node.objects[i]? = some (.controller c') ∧
      c'.managers ≠ none ∧ c'.waiting = [] ∧
      ∀ id, id ∈ c'.asked ↔ Requested c.settings.subnetCount i
        (past ++ events gap ++ handedOver i c.waiting ++ events (between ++ rest)) id := by
  obtain ⟨c₁, hc₁, h₁⟩ := heeds_run (fun s hs => apart s (List.mem_append_left _ hs)) hc
  obtain ⟨m₁, hm₁⟩ := Option.ne_none_iff_exists'.1 (mt h₁.fixed.unstarted.1 hm)
  set d := (c₁.handOver (t.run gap).node.hub.registry).1 with hd
  have handed : ((t.run gap).step (.handOver i)).node.objects[i]? = some (.controller d) :=
    objects_handOver hc₁
  have asked (id : SubnetId) : id ∈ d.asked ↔ Requested c.settings.subnetCount i
      (past ++ events gap ++ handedOver i c.waiting) id := by
    have waiting := h₁.waiting hm
    have later := asked_handOver (i := i) hm₁ (t.run gap).node.hub.registry (past ++ events gap)
    rw [waiting, h₁.settings] at later
    exact later valid (h₁.asked past hp) id
  obtain ⟨c₂, hc₂, h₂⟩ := heeds_rest
    (fun s hs => apart s (List.mem_append_right gap hs)) handed optimistic
  rw [handOver_started hm₁] at hd
  have hmd : d.managers ≠ none := by
    rw [hd]
    exact Option.some_ne_none _
  have settings : d.settings = c.settings := (congrArg Controller.settings hd).trans h₁.settings
  refine ⟨c₂, hc₂, mt h₂.fixed.unstarted.1 hmd, ?_, ?_⟩
  · exact (h₂.waiting hmd).trans (congrArg Controller.waiting hd)
  · have later := h₂.asked (past ++ events gap ++ handedOver i c.waiting)
    rw [settings] at later
    exact later asked

end Start

/-- The subnet was asked for before the managers were built, was last spoken of between the first
two sections of the start, and then given up. -/
def GivenUpMeanwhile (count : UInt64) (i : Nat) (before gap after : List Event) (id : SubnetId) :
    Prop :=
  Requested count i before id ∧ (gap.filterMap (·.subnetRequest i id)).getLast? = some false ∧
    (after.filterMap (·.subnetRequest i id)).getLast? = none

section Order

variable {count : UInt64} {before gap after : List Event} {waiting : List SubnetId} {id : SubnetId}
  (hw : ∀ id, id ∈ waiting ↔ Requested count i before id)

include hw

theorem requested_handedOver :
    Requested count i (gap ++ handedOver i waiting) id ↔
      Requested count i before id ∨ Requested count i gap id := by
  rw [handedOver, requested_requests fun id hid => ((hw id).1 hid).1, hw]

theorem requested_kept (h : Requested count i (before ++ gap ++ after) id) :
    Requested count i (gap ++ handedOver i waiting ++ after) id := by
  rw [requested_append] at h ⊢
  cases hafter : (after.filterMap (·.subnetRequest i id)).getLast? with
  | some wanted =>
    rw [hafter] at h
    exact h
  | none =>
    simp only [hafter] at h
    rw [requested_append] at h
    apply (requested_handedOver hw).2
    cases hgap : (gap.filterMap (·.subnetRequest i id)).getLast? with
    | some wanted =>
      simp only [hgap] at h
      exact .inr ⟨h.1, by rw [hgap, h.2]⟩
    | none =>
      simp only [hgap] at h
      exact .inl h

theorem requested_only (h : Requested count i (gap ++ handedOver i waiting ++ after) id) :
    Requested count i (before ++ gap ++ after) id ∨
      GivenUpMeanwhile count i before gap after id := by
  rw [requested_append] at h ⊢
  cases hafter : (after.filterMap (·.subnetRequest i id)).getLast? with
  | some wanted =>
    rw [hafter] at h
    exact .inl h
  | none =>
    simp only [hafter] at h
    dsimp only
    rw [requested_append]
    rcases (requested_handedOver hw).1 h with early | meanwhile
    · cases hgap : (gap.filterMap (·.subnetRequest i id)).getLast? with
      | some wanted =>
        cases wanted with
        | true => exact .inl ⟨early.1, rfl⟩
        | false => exact .inr ⟨early, hgap, hafter⟩
      | none => exact .inl early
    · rw [meanwhile.2]
      exact .inl ⟨meanwhile.1, rfl⟩

end Order

/-- What a first start comes to among the calls of others: those before its first section, those
between its first two, and those after these. -/
structure NoneLost (c : Controller) (count : UInt64) (i : Nat) (before gap after : List Event)
    (answer : Except GossipError Unit) : Prop where
  /-- A start that fails leaves waiting what was asked for. -/
  failed : ∀ e, answer = .error e →
    c.managers = none ∧ ∀ id, id ∈ c.waiting ↔ Requested count i (before ++ gap ++ after) id
  /-- Otherwise nothing waits any more, and the managers have all that was called for last. -/
  started : answer = .ok () → ∃ m, c.managers = some m ∧ c.waiting = [] ∧
    (∀ id, Requested count i (before ++ gap ++ after) id → id ∈ m.attestation.requested) ∧
    ∀ id ∈ m.attestation.requested, Requested count i (before ++ gap ++ after) id ∨
      GivenUpMeanwhile count i before gap after id

namespace NoneLost

variable {count : UInt64} {before gap after : List Event} {answer : Except GossipError Unit}

theorem of_failed {e : GossipError} (failed : answer = .error e) (unstarted : c.managers = none)
    (asked : ∀ id, id ∈ c.asked ↔ Requested count i (before ++ gap ++ after) id) :
    c.NoneLost count i before gap after answer := by
  constructor
  · intro _ _
    rw [asked_unstarted unstarted] at asked
    exact ⟨unstarted, asked⟩
  · intro ok
    rw [failed] at ok
    cases ok

theorem of_started (ok : answer = .ok ()) (started : c.managers ≠ none) (emptied : c.waiting = [])
    (kept : ∀ id, Requested count i (before ++ gap ++ after) id → id ∈ c.asked)
    (only : ∀ id ∈ c.asked, Requested count i (before ++ gap ++ after) id ∨
      GivenUpMeanwhile count i before gap after id) :
    c.NoneLost count i before gap after answer := by
  constructor
  · intro e failed
    rw [ok] at failed
    cases failed
  · intro _
    obtain ⟨m, hm⟩ := Option.ne_none_iff_exists'.1 started
    rw [asked_started hm] at kept only
    exact ⟨m, hm, emptied, kept, only⟩

end NoneLost

/-- Wherever the calls of others come between the sections of a first start, no request is lost. -/
theorem none_lost (base : Interim) (fork : Fork) (settings : Settings)
    (before gap between rest : List Section) (root : Root) (optimistic : Bool)
    (unstarted : ∀ c, ((base.step (.whole (.addController fork settings))).run
        before).node.objects[base.node.objects.length]? = some (.controller c) → c.managers = none)
    (apart : ∀ s ∈ gap ++ (between ++ rest), s.starts base.node.objects.length = false) :
    let i := base.node.objects.length
    let earlier := (base.step (.whole (.addController fork settings))).run before
    let last := earlier.run
      (.build i root :: gap ++ .handOver i :: between ++ .join i optimistic :: rest)
    ∃ c, last.node.objects[i]? = some (.controller c) ∧
      c.NoneLost settings.subnetCount i (events before) (events gap) (events (between ++ rest))
        (earlier.node.build i root).1 := by
  intro i earlier last
  have made : (base.step (.whole (.addController fork settings))).node.objects[i]? =
      some (.controller (.ofFork fork settings)) :=
    (Node.objects_add ..).trans (if_pos rfl)
  obtain ⟨c, hc, heeds⟩ := heeds_until before made
  have hm := unstarted c hc
  obtain ⟨-, rfl, -, asked⟩ := heeds hm
  have waiting (id : SubnetId) : id ∈ c.waiting ↔
      Requested c.settings.subnetCount i (events before) id := by
    rw [← asked_unstarted hm]
    exact asked [] (fun _ => iff_of_false List.not_mem_nil Node.not_requested_nil) id
  have split : last = _ := run_start ..
  rw [split]
  obtain ⟨e, answer, hc'⟩ | ⟨digest, answer, hc'⟩ := objects_build hc hm root
  · obtain ⟨d, hd, heeds⟩ :=
      heeds_failed (t := earlier.step (.build i root)) apart hc' hm optimistic
    have asked (id : SubnetId) := heeds.asked (events before) (by rwa [asked_unstarted hm]) id
    rw [Node.events_append, ← List.append_assoc] at asked
    exact ⟨d, hd, .of_failed answer (heeds.fixed.unstarted.2 hm) asked⟩
  · obtain ⟨d, hd, started, emptied, asked⟩ := asked_succeeded (t := earlier.step (.build i root))
      apart [] hc' (Option.some_ne_none _) (fun id hid => ((waiting id).1 hid).1)
      (fun _ => iff_of_false List.not_mem_nil Node.not_requested_nil) optimistic
    refine ⟨d, hd, .of_started answer started emptied ?_ ?_⟩
    · intro id hr
      exact (asked id).2 (requested_kept waiting hr)
    · intro id hid
      exact requested_only waiting ((asked id).1 hid)

/-- One start fails before the root of the genesis is known. Two subnets wait for the next; one of
them is given up, and asked for again, while that is under way. -/
theorem none_lost_retried :
    let base : Interim := .fresh .standard (.genesis none)
    let before : List Section := [.whole (.act 0 (.requestSubnet 3)),
      .whole (.act 0 (.start .zero false)), .whole (.act 0 (.requestSubnet 5)),
      .whole (.setGenesisRoot .zero)]
    let gap : List Section := [.whole (.act 0 (.requestSubnet 7)),
      .whole (.act 0 (.releaseSubnet 3)), .whole .runTasks]
    let between : List Section := [.whole (.act 0 (.releaseSubnet 5)),
      .whole (.act 0 (.requestSubnet 3))]
    let earlier := (base.step (.whole (.addController .genesis .standard))).run before
    let last := earlier.run
      (.build 0 .zero :: gap ++ .handOver 0 :: between ++ [.join 0 false])
    (earlier.node.build 0 .zero).1 = .ok () ∧
      ∃ c, last.node.objects[0]? = some (.controller c) ∧
        c.NoneLost 64 0 (events before) (events gap) (events between) (.ok ()) := by
  intro base before gap between earlier last
  have found : earlier.node.objects[0]? =
      some (.controller ⟨.genesis, .standard, none, [⟨3⟩, ⟨5⟩]⟩) := by decide +kernel
  have answer : (earlier.node.build 0 .zero).1 = .ok () := by
    simp only [Node.build, found]
    rfl
  have unstarted : ∀ c, earlier.node.objects[0]? = some (.controller c) → c.managers = none := by
    intro c hc
    cases hc.symm.trans found
    rfl
  have apart : ∀ s ∈ gap ++ (between ++ []), s.starts 0 = false := by decide
  obtain ⟨c, hc, kept⟩ := none_lost base .genesis .standard before gap between [] .zero false
    unstarted apart
  refine ⟨answer, c, hc, ?_⟩
  rw [← answer]
  exact kept

/-- A subnet is given up between the building of the managers and the handing over of what waits. It
is requested all the same. -/
theorem lost_releases :
    let base := (Interim.fresh .standard (.genesis (some .zero))).step
      (.whole (.addController .genesis .standard))
    let sections : List Section := [.whole (.act 0 (.requestSubnet 3)), .build 0 .zero,
      .whole (.act 0 (.releaseSubnet 3)), .handOver 0, .join 0 false]
    let c := (base.run sections).node.controllerAt 0
    ((events sections).filterMap (·.subnetRequest 0 ⟨3⟩)).getLast? = some false ∧
      c.waiting = [] ∧ c.asked = [⟨3⟩] := by
  decide +kernel

end Controller

end BeaconGossip
