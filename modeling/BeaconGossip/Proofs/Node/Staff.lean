import BeaconGossip.Proofs.Node.Lasting
import BeaconGossip.Proofs.Node.Ledger

namespace BeaconGossip

open Node (Act)

namespace Controller

/-- The classes of the managers with a single topic, once there are any. -/
def staff (c : Controller) : Option (List MessageClass) :=
  c.managers.map fun m => m.topics.map (·.cls)

variable {c c' : Controller} {r r' : Registry}

theorem staff_map {g : Managers → Managers} (managers : c'.managers = c.managers.map g)
    (hg : ∀ m, (g m).topics.map (·.cls) = m.topics.map (·.cls)) : c'.staff = c.staff := by
  rw [staff, staff, managers]
  cases c.managers with
  | none => rfl
  | some m => exact congrArg some (hg m)

theorem staff_build {root : Root} {schedule schedule' : Schedule}
    (h : c.build root schedule r = .ok (c', schedule', r')) :
    c'.staff = c.staff ∨ c'.staff = some MessageClass.single := by
  obtain ⟨-, rfl, -⟩ | ⟨-, digest, -, rfl, -⟩ := build_ok h
  · exact .inl rfl
  · exact .inr rfl

theorem staff_handOver (c : Controller) (r : Registry) : (c.handOver r).1.staff = c.staff := by
  cases hm : c.managers with
  | none => simp only [handOver, hm]
  | some m =>
    rw [handOver_started hm, staff, staff, hm]
    rfl

theorem staff_subscribe (c : Controller) (head : Bool) : (c.subscribe head).staff = c.staff := by
  refine staff_map rfl fun m => ?_
  rw [Managers.subscribe, List.map_map]
  refine List.map_congr_left fun t _ => ?_
  rw [Function.comp_apply]
  split <;> rfl

theorem staff_unsubscribe {all : Bool}
    (managers : c'.managers = c.managers.map (·.unsubscribe all)) : c'.staff = c.staff := by
  refine staff_map managers fun m => ?_
  rw [Managers.unsubscribe, List.map_map]
  refine List.map_congr_left fun t _ => ?_
  rw [Function.comp_apply]
  split <;> rfl

theorem staff_start {root : Root} {head : Bool} {schedule schedule' : Schedule}
    (h : c.start root head schedule r = .ok (c', schedule', r')) :
    c'.staff = c.staff ∨ c'.staff = some MessageClass.single := by
  obtain ⟨c₁, r₁, built, rfl, -⟩ := start_build h
  rw [staff_subscribe, staff_handOver]
  exact staff_build built

theorem staff_performed (c : Controller) (node : Node) (act : Act) :
    (c.performed node act).staff = c.staff ∨
      (c.performed node act).staff = some MessageClass.single := by
  cases act with
  | start root head =>
    simp only [performed]
    split
    · rename_i h
      exact staff_start h
    · exact .inl rfl
  | stop => exact .inl (staff_unsubscribe rfl)
  | stopOptimistic => exact .inl (staff_unsubscribe rfl)
  | requestSubnet index =>
    simp only [performed]
    split
    · rename_i h
      obtain ⟨-, ⟨-, rfl⟩ | ⟨m, hm, rfl⟩⟩ := requestSubnet_ok h
      · exact .inl rfl
      · exact .inl (by rw [staff, staff, hm]; rfl)
    · exact .inl rfl
  | releaseSubnet index =>
    simp only [performed]
    split
    · rename_i h
      obtain ⟨-, ⟨-, rfl⟩ | ⟨m, hm, rfl⟩⟩ := releaseSubnet_ok h
      · exact .inl rfl
      · exact .inl (by rw [staff, staff, hm]; rfl)
    · exact .inl rfl
  | publishAttestation n =>
    simp only [performed]
    split
    · rw [publishAttestation_controller]
      exact .inl (staff_map rfl fun m => rfl)
    · exact .inl rfl
  | _ => exact .inl rfl

end Controller

namespace GossipObject

def staff : GossipObject → Option (List MessageClass)
  | controller c => c.staff
  | _ => none

/-- Whoever has managers has one for every class. -/
def Staffed (o : GossipObject) : Prop := ∀ classes ∈ o.staff, classes = MessageClass.single

variable {o o' : GossipObject}

theorem Staffed.of_staff (h : o.Staffed)
    (staff : o'.staff = o.staff ∨ o'.staff = some MessageClass.single) : o'.Staffed := by
  intro classes hc
  rcases staff with same | new
  · rw [same] at hc
    exact h classes hc
  · rw [new] at hc
    exact (Option.some.inj hc).symm

theorem staff_performed (o : GossipObject) (node : Node) (act : Act) :
    (o.performed node act).staff = o.staff ∨
      (o.performed node act).staff = some MessageClass.single := by
  cases o with
  | controller c => exact c.staff_performed node act
  | _ => exact .inl rfl

theorem staff_onLane {lane : Lane} {c c' : Channel} (hc : o.channel? lane = some c)
    (he : c'.endpoint = c.endpoint) : (o.onLane lane fun _ => c').staff = o.staff := by
  cases o with
  | controller d =>
    cases hm : d.managers with
    | none =>
      rw [channel?_stopped hm] at hc
      cases hc
    | some m =>
      rw [channel?_started hm] at hc
      rw [onLane, staff, staff, Controller.staff, Controller.staff, hm]
      refine congrArg some ?_
      cases lane with
      | ofClass k =>
        rw [Managers.lookup_ofClass] at hc
        obtain ⟨t, ht, rfl⟩ := Option.map_eq_some_iff.1 hc
        have cls : (⟨c'⟩ : TopicManager).cls = k :=
          (congrArg Endpoint.cls he).trans (Managers.topic?_cls ht)
        simp only [Managers.onLane, List.map_map]
        refine List.map_congr_left fun t' _ => ?_
        rw [Function.comp_apply]
        split
        case isTrue hk => exact cls.trans hk.symm
        case isFalse => rfl
      | _ => rfl
  | manager m => cases lane <;> rfl
  | subnets s => cases lane <;> rfl
  | channel d => cases lane <;> rfl

end GossipObject

namespace Managers

theorem cls_topic? {m : Managers} (staff : m.topics.map (·.cls) = MessageClass.single)
    (c : MessageClass) :
    (m.topic? c).map (·.cls) = if c = .attestation then none else some c := by
  have found : (m.topic? c).map (·.cls) = (m.topics.map (·.cls)).find? (· = c) := by
    rw [topic?, List.find?_map]
    rfl
  rw [found, staff]
  cases c <;> decide

end Managers

/-- The classes of the offers that have been entered. -/
def offerings (log : List Entry) : List MessageClass :=
  log.filterMap fun
    | .offer cls => some cls
    | .publish _ _ => none

theorem offerings_append (log log' : List Entry) :
    offerings (log ++ log') = offerings log ++ offerings log' :=
  List.filterMap_append

theorem count_offer (log : List Entry) (c : MessageClass) :
    log.count (.offer c) = (offerings log).count c := by
  induction log with
  | nil => rfl
  | cons entry rest ih =>
    rw [List.count_cons, ih]
    cases entry with
    | offer cls => simp [offerings, List.count_cons]
    | publish channel payload => simp [offerings]

theorem TopicManager.offerings_entries (m : TopicManager) (message : Message) :
    offerings (m.entries message) = [m.cls] := by
  unfold entries
  split <;> rfl

theorem TopicManager.offerings_aggregateEntries (m : TopicManager) (a : GossipAttestation) :
    offerings (m.aggregateEntries a) = [m.cls] := by
  unfold aggregateEntries
  cases a.aggregate with
  | none => rfl
  | some aggregate =>
    dsimp only
    split <;> rfl

theorem SubnetSet.offerings_entries (s : SubnetSet) (a : GossipAttestation) :
    offerings (s.entries a) = [.attestation] := by
  unfold entries
  split <;> rfl

theorem offerings_managed {f : TopicManager → List Entry} (hf : ∀ t, offerings (f t) = [t.cls])
    (t : Option TopicManager) : offerings ((t.map f).getD []) = (t.map (·.cls)).toList := by
  cases t with
  | none => rfl
  | some t => exact hf t

namespace GossipObject

/-- The classes whose managers are offered a message by the act. To a controller that has not been
started nothing can be offered. -/
def offers (o : GossipObject) (attestations : List GossipAttestation) : Act → List MessageClass
  | .publish message =>
    match o with
    | controller c => if c.isStarted ∧ message.cls ≠ .attestation then [message.cls] else []
    | manager m => [m.cls]
    | _ => []
  | .publishAttestation n =>
    match o, attestations[n]? with
    | controller c, some _ => if c.isStarted then [.attestation, .aggregate] else []
    | manager m, some _ => [m.cls]
    | subnets _, some _ => [.attestation]
    | _, _ => []
  | _ => []

theorem Staffed.offerings_entries {o : GossipObject} (staffed : o.Staffed)
    (attestations : List GossipAttestation) (act : Act) :
    offerings (o.entries attestations act) = o.offers attestations act := by
  have cls {c : Controller} {m : Managers} (hc : o = controller c) (hm : c.managers = some m)
      (k : MessageClass) :
      (m.topic? k).map (·.cls) = if k = .attestation then none else some k := by
    refine m.cls_topic? (staffed _ ?_) k
    rw [hc, staff, Controller.staff, hm]
    rfl
  cases act with
  | publish message =>
    cases o with
    | controller c =>
      simp only [entries, offers, Controller.entries]
      cases hm : c.managers with
      | none => simp [Controller.isStarted, hm, offerings]
      | some m =>
        have started : c.isStarted = true := by rw [Controller.isStarted, hm]; rfl
        rw [Option.bind_some, offerings_managed fun t => t.offerings_entries message, cls rfl hm]
        by_cases hk : message.cls = .attestation <;> simp [hk, started]
    | manager m => exact m.offerings_entries message
    | _ => rfl
  | publishPayload payload => cases o <;> rfl
  | publishAttestation n =>
    simp only [entries, offers]
    cases attestations[n]? with
    | none => cases o <;> rfl
    | some a =>
      cases o with
      | controller c =>
        simp only [Controller.attestationEntries]
        cases hm : c.managers with
        | none => simp [Controller.isStarted, hm, offerings]
        | some m =>
          have started : c.isStarted = true := by rw [Controller.isStarted, hm]; rfl
          rw [Option.map_some, Option.getD_some, offerings_append, m.attestation.offerings_entries,
            offerings_managed fun t => t.offerings_aggregateEntries a, cls rfl hm, started]
          rfl
      | manager m => exact m.offerings_aggregateEntries a
      | subnets s => exact s.offerings_entries a
      | channel c => rfl
  | gossip n =>
    simp only [entries, offers]
    cases attestations[n]? with
    | none => cases o <;> rfl
    | some a => cases o <;> rfl
  | _ => rfl

end GossipObject

namespace Node

theorem lasting_staffed : Lasting GossipObject.Staffed where
  controller _ _ := nofun
  manager _ _ _ := nofun
  subnets _ _ := nofun
  channel _ _ := nofun
  act h node act := h.of_staff (GossipObject.staff_performed _ node act)
  turn h hc hub := h.of_staff (.inl (GossipObject.staff_onLane hc (Channel.poll_endpoint _ hub)))
  build h hb := h.of_staff (Controller.staff_build hb)
  handOver h r := h.of_staff (.inl (Controller.staff_handOver _ r))
  join h head := h.of_staff (.inl (Controller.staff_subscribe _ head))

theorem staffed_run (settings : Settings) (schedule : Schedule) (sections : List Section) :
    ((Interim.fresh settings schedule).run sections).node.Every GossipObject.Staffed :=
  lasting_staffed.run settings schedule sections

end Node

end BeaconGossip
