import BeaconGossip.Proofs.Controller.Mode
import BeaconGossip.Proofs.Node.Advance
import Mathlib.Data.List.Induction

namespace BeaconGossip

namespace Node

/-- What the act says about the subnet: that it is asked for, or given up. -/
def Act.subnetRequest (id : SubnetId) : Act → Option Bool
  | .requestSubnet index => if index = id.index then some true else none
  | .releaseSubnet index => if index = id.index then some false else none
  | _ => none

def Event.subnetRequest (i : Nat) (id : SubnetId) : Event → Option Bool
  | .act j a => if j = i then a.subnetRequest id else none
  | _ => none

theorem Event.subnetRequest_other {i : Nat} {e : Event} {id : SubnetId}
    (he : ∀ act, e ≠ .act i act) : e.subnetRequest i id = none := by
  unfold subnetRequest
  split
  case h_1 j a =>
    rw [if_neg]
    rintro rfl
    exact he a rfl
  case h_2 => rfl

/-- The subnet exists and was asked for when it was last spoken of. -/
def Requested (count : UInt64) (i : Nat) (es : List Event) (id : SubnetId) : Prop :=
  id.index < count ∧ (es.filterMap (·.subnetRequest i id)).getLast? = some true

variable {count : UInt64} {i : Nat} {es : List Event} {e : Event} {id : SubnetId}

theorem not_requested_nil : ¬ Requested count i [] id := by
  rintro ⟨_, h⟩
  cases h

theorem requested_other (h : e.subnetRequest i id = none) :
    Requested count i (es ++ [e]) id ↔ Requested count i es id := by
  rw [Requested, Requested, List.filterMap_append]
  simp [h]

theorem requested_newest (wanted : Bool) (h : e.subnetRequest i id = some wanted) :
    Requested count i (es ++ [e]) id ↔ id.index < count ∧ wanted = true := by
  rw [Requested, List.filterMap_append]
  simp [h]

theorem requested_request {index : UInt64} (hi : index < count) :
    Requested count i (es ++ [.act i (.requestSubnet index)]) id ↔
      id = ⟨index⟩ ∨ Requested count i es id := by
  by_cases hid : index = id.index
  · subst hid
    rw [requested_newest true (by simp [Event.subnetRequest, Act.subnetRequest])]
    simp [hi]
  · rw [requested_other (by simp [Event.subnetRequest, Act.subnetRequest, hid])]
    refine (or_iff_right ?_).symm
    rintro rfl
    exact hid rfl

theorem requested_release {index : UInt64} :
    Requested count i (es ++ [.act i (.releaseSubnet index)]) id ↔
      Requested count i es id ∧ id ≠ ⟨index⟩ := by
  by_cases hid : index = id.index
  · subst hid
    rw [requested_newest false (by simp [Event.subnetRequest, Act.subnetRequest])]
    simp
  · rw [requested_other (by simp [Event.subnetRequest, Act.subnetRequest, hid])]
    refine (and_iff_left ?_).symm
    rintro rfl
    exact hid rfl

theorem requested_request_invalid {index : UInt64} (hi : ¬ index < count) :
    Requested count i (es ++ [.act i (.requestSubnet index)]) id ↔ Requested count i es id := by
  by_cases hid : index = id.index
  · subst hid
    exact ⟨fun h => (hi h.1).elim, fun h => (hi h.1).elim⟩
  · exact requested_other (by simp [Event.subnetRequest, Act.subnetRequest, hid])

theorem requested_release_invalid {index : UInt64} (hi : ¬ index < count) :
    Requested count i (es ++ [.act i (.releaseSubnet index)]) id ↔ Requested count i es id := by
  rw [requested_release]
  apply and_iff_left_of_imp
  intro h he
  apply hi
  rw [he] at h
  exact h.1

end Node

namespace Controller

open Node (Act Event Answer Requested)

namespace Mode

/-- The mode after an act, given the answer to it. -/
def act (mode : Mode) (act : Act) (answer : Answer) : Mode :=
  match act, answer with
  | .start _ head, .result (.ok ()) => mode.start head
  | .stop, _ => .stopped
  | .stopOptimistic, _ => mode.stopOptimistic
  | _, _ => mode

def after (i : Nat) (mode : Mode) : Event × Answer → Mode
  | (.act j a, answer) => if j = i then mode.act a answer else mode
  | _ => mode

theorem after_other {i : Nat} {mode : Mode} {e : Event} {answer : Answer}
    (he : ∀ act, e ≠ .act i act) : mode.after i (e, answer) = mode := by
  unfold after
  split
  case h_1 j a answer h =>
    rw [Prod.mk.injEq] at h
    rw [if_neg]
    rintro rfl
    exact he a h.1
  case h_2 => rfl

/-- The mode of the controller after a run. -/
def reached (i : Nat) (history : List (Event × Answer)) : Mode := history.foldl (after i) .stopped

end Mode

/-- The controller after an act, given the node in which it happens. -/
def performed (c : Controller) (node : Node) : Act → Controller
  | .start root head =>
    match c.start root head node.schedule node.hub.registry with
    | .ok (c', _, _) => c'
    | .error _ => c
  | .stop => c.stop
  | .stopOptimistic => c.stopOptimistic
  | .requestSubnet index =>
    match c.requestSubnet index node.hub.registry with
    | .ok (c', _) => c'
    | .error _ => c
  | .releaseSubnet index =>
    match c.releaseSubnet index node.hub.registry with
    | .ok (c', _) => c'
    | .error _ => c
  | .publishAttestation a =>
    match node.attestations[a]? with
    | some att => (c.publishAttestation att node.hub).2.1
    | none => c
  | _ => c

/-- Some channels of the controller have had turns. -/
inductive Turned (c : Controller) : Controller → Prop where
  | same : Turned c c
  | turn {c' : Controller} {lane : Lane} {d : Channel} (h : Hub) (turned : Turned c c')
    (found : (GossipObject.controller c').channel? lane = some d) :
    Turned c { c' with managers := c'.managers.map (·.onLane lane fun _ => (d.poll h).1) }

section Events

variable {node : Node} {i : Nat} {c : Controller}

theorem objects_put {node' : Node} {o o' o'' : GossipObject} (ho : node.objects[i]? = some o)
    (objects : node'.objects = node.objects) : (node'.put i o' o'').objects[i]? = some o'' := by
  have hlt := (List.getElem?_eq_some_iff.1 ho).1
  rw [← objects] at hlt
  exact List.getElem?_set_self hlt

theorem objects_perform (hc : node.objects[i]? = some (.controller c)) (act : Act) :
    (node.perform i act).2.objects[i]? = some (.controller (c.performed node act)) := by
  cases act with
  | start root head =>
    simp only [Node.perform, Node.start, hc, performed]
    cases c.start root head node.schedule node.hub.registry with
    | error e => exact hc
    | ok p => exact objects_put hc rfl
  | stop =>
    simp only [Node.perform, Node.stop, hc]
    exact objects_put hc rfl
  | stopOptimistic =>
    simp only [Node.perform, Node.stopOptimistic, hc]
    exact objects_put hc rfl
  | subscribe => simp only [Node.perform, Node.subscribe, hc, performed]
  | unsubscribe => simp only [Node.perform, Node.unsubscribe, hc, performed]
  | requestSubnet index =>
    simp only [Node.perform, Node.requestSubnet, hc, performed]
    cases c.requestSubnet index node.hub.registry with
    | error e => exact hc
    | ok p => exact objects_put hc rfl
  | releaseSubnet index =>
    simp only [Node.perform, Node.releaseSubnet, hc, performed]
    cases c.releaseSubnet index node.hub.registry with
    | error e => exact hc
    | ok p => exact objects_put hc rfl
  | publish message => simp only [Node.perform, Node.publish, hc, performed]
  | publishPayload payload => simp only [Node.perform, Node.publishPayload, hc, performed]
  | publishAttestation a =>
    simp only [Node.perform, Node.publishAttestation, hc, performed]
    cases node.attestations[a]? with
    | none => exact hc
    | some att => exact objects_put hc rfl
  | gossip a => simp only [Node.perform, Node.gossip, hc, performed]

theorem Turned.poll {c' : Controller} (h : c.Turned c')
    (hc : node.objects[i]? = some (.controller c')) (a : Node.Address) :
    ∃ c'', (node.poll a).objects[i]? = some (.controller c'') ∧ c.Turned c'' := by
  cases hd : node.channel? a with
  | none =>
    rw [Node.poll_none hd]
    exact ⟨c', hc, h⟩
  | some d =>
    rw [Node.poll_some hd, List.getElem?_modify, hc]
    by_cases hi : a.object = i
    · rw [Node.channel?, hi, hc, Option.bind_some] at hd
      simp only [hi, if_true, Option.map_eq_map, Option.map_some]
      exact ⟨_, rfl, .turn node.hub h hd⟩
    · simp only [hi, if_false, Option.map_eq_map, Option.map_some]
      exact ⟨c', rfl, h⟩

theorem Turned.sweep {c' : Controller} (h : c.Turned c')
    (hc : node.objects[i]? = some (.controller c')) (addresses : List Node.Address) :
    ∃ c'', (node.sweep addresses).1.objects[i]? = some (.controller c'') ∧ c.Turned c'' := by
  induction addresses generalizing node c' with
  | nil => exact ⟨c', hc, h⟩
  | cons a rest ih =>
    obtain ⟨c'', hc', h'⟩ := h.poll hc a
    exact ih h' hc'

/-- Events other than acts on the controller do no more to it than to let channels have turns. -/
theorem turned_after (hc : node.objects[i]? = some (.controller c)) {e : Event}
    (he : ∀ act, e ≠ .act i act) :
    ∃ c', (node.after e).objects[i]? = some (.controller c') ∧ c.Turned c' := by
  cases ht : e.isTurn with
  | false =>
    have hlt := (List.getElem?_eq_some_iff.1 hc).1
    exact ⟨c, (Node.objects_after hlt ht he).trans hc, .same⟩
  | true =>
    cases e with
    | turn a => exact Turned.same.poll hc a
    | runTasks => exact Turned.same.sweep hc node.tasks
    | _ => cases ht

theorem Turned.trans {c'' : Controller} (h : c.Turned c') (h' : c'.Turned c'') : c.Turned c'' := by
  induction h' with
  | same => exact h
  | turn hub _ found ih => exact .turn hub ih found

theorem turned_run (hc : node.objects[i]? = some (.controller c)) {es : List Event}
    (own : ∀ act, .act i act ∉ es) :
    ∃ c', (node.run es).objects[i]? = some (.controller c') ∧ c.Turned c' := by
  induction es generalizing node c with
  | nil => exact ⟨c, hc, .same⟩
  | cons e es ih =>
    have he : ∀ act, e ≠ .act i act := by
      rintro act rfl
      exact own act List.mem_cons_self
    obtain ⟨c₁, hc₁, h₁⟩ := turned_after hc he
    obtain ⟨c₂, hc₂, h₂⟩ := ih hc₁ fun act hm => own act (List.mem_cons_of_mem e hm)
    exact ⟨c₂, hc₂, h₁.trans h₂⟩

end Events

section Tracks

variable {node : Node} {i : Nat} {c : Controller} {settings : Settings} {mode : Mode}
  {requested : SubnetId → Prop} {es : List Event}

theorem Tracks.turns (h : c.Tracks settings mode requested) {c' : Controller} (ht : c.Turned c') :
    c'.Tracks settings mode requested := by
  induction ht with
  | same => exact h
  | @turn c' lane d hub _ found ih =>
    exact ih.turned found (Channel.poll_endpoint d hub) (Channel.poll_limit d hub)
      (Channel.poll_requests d hub).1

theorem Tracks.event (h : c.Tracks settings mode (Requested settings.subnetCount i es)) {e : Event}
    (he : ∀ id, e.subnetRequest i id = none) :
    c.Tracks settings mode (Requested settings.subnetCount i (es ++ [e])) :=
  h.congr fun id => (Node.requested_other (he id)).symm

theorem subnetRequest_act {act : Act} {id : SubnetId} (h : act.subnetRequest id = none) :
    Event.subnetRequest i id (.act i act) = none := by
  rw [Event.subnetRequest, if_pos rfl, h]

theorem Tracks.perform (hc : node.objects[i]? = some (.controller c))
    (h : c.Tracks settings mode (Requested settings.subnetCount i es)) (act : Act) :
    (c.performed node act).Tracks settings (mode.act act (node.perform i act).1)
      (Requested settings.subnetCount i (es ++ [.act i act])) := by
  cases act with
  | start root head =>
    simp only [Node.perform, Node.start, hc, performed]
    cases hs : c.start root head node.schedule node.hub.registry with
    | error e => exact h.event fun _ => subnetRequest_act rfl
    | ok p => exact (h.start hs).event fun _ => subnetRequest_act rfl
  | stop => exact h.stop.event fun _ => subnetRequest_act rfl
  | stopOptimistic => exact h.stopOptimistic.event fun _ => subnetRequest_act rfl
  | subscribe => exact h.event fun _ => subnetRequest_act rfl
  | unsubscribe => exact h.event fun _ => subnetRequest_act rfl
  | requestSubnet index =>
    simp only [Node.perform, Node.requestSubnet, hc, performed]
    cases hs : c.requestSubnet index node.hub.registry with
    | error e =>
      have hi := requestSubnet_error hs
      rw [h.settings_eq] at hi
      exact h.congr fun id => (Node.requested_request_invalid hi).symm
    | ok p =>
      obtain ⟨hi, h'⟩ := h.requestSubnet hs
      exact h'.congr fun id => (Node.requested_request hi).symm
  | releaseSubnet index =>
    simp only [Node.perform, Node.releaseSubnet, hc, performed]
    cases hs : c.releaseSubnet index node.hub.registry with
    | error e =>
      have hi := releaseSubnet_error hs
      rw [h.settings_eq] at hi
      exact h.congr fun id => (Node.requested_release_invalid hi).symm
    | ok p =>
      obtain ⟨_, h'⟩ := h.releaseSubnet hs
      exact h'.congr fun id => Node.requested_release.symm
  | publish message => exact h.event fun _ => subnetRequest_act rfl
  | publishPayload payload => exact h.event fun _ => subnetRequest_act rfl
  | publishAttestation a =>
    simp only [performed]
    cases node.attestations[a]? with
    | none => exact h.event fun _ => subnetRequest_act rfl
    | some att => exact (h.publishAttestation att node.hub).event fun _ => subnetRequest_act rfl
  | gossip a => exact h.event fun _ => subnetRequest_act rfl

/-- The node has the controller, which tracks the mode and the requests so far. -/
def TracksIn (settings : Settings) (mode : Mode) (es : List Event) (node : Node) (i : Nat) : Prop :=
  ∃ c, node.objects[i]? = some (.controller c) ∧
    c.Tracks settings mode (Requested settings.subnetCount i es)

theorem TracksIn.after (h : TracksIn settings mode es node i) (e : Event) :
    TracksIn settings (mode.after i (e, (node.step e).1)) (es ++ [e]) (node.after e) i := by
  obtain ⟨c, hc, ht⟩ := h
  by_cases he : ∃ act, e = .act i act
  · obtain ⟨act, rfl⟩ := he
    simp only [Mode.after, if_true]
    exact ⟨_, objects_perform hc act, ht.perform hc act⟩
  · have hne : ∀ act, e ≠ .act i act := fun act h => he ⟨act, h⟩
    obtain ⟨c', hc', hturned⟩ := turned_after hc hne
    refine ⟨c', hc', ?_⟩
    rw [Mode.after_other hne]
    exact (ht.turns hturned).event fun id => Event.subnetRequest_other hne

theorem TracksIn.run (h : TracksIn settings .stopped [] node i) (es : List Event) :
    TracksIn settings (.reached i (node.history es)) es (node.run es) i := by
  induction es using List.reverseRecOn with
  | nil => exact h
  | append_singleton es e ih =>
    rw [Node.run_append, Node.history_append, Mode.reached, List.foldl_append]
    exact ih.after e

end Tracks

theorem tracksIn_added (before : Node) (fork : Fork) (settings : Settings) :
    TracksIn settings .stopped [] (before.after (.addController fork settings))
      before.objects.length := by
  refine ⟨.ofFork fork settings, ?_, (Tracks.ofFork fork settings).congr ?_⟩
  · exact (Node.objects_add ..).trans (if_pos rfl)
  · intro id
    exact (iff_of_false Node.not_requested_nil (by simp)).symm

end Controller

end BeaconGossip
