import BeaconGossip.Proofs.Node.Gauge
import BeaconGossip.Proofs.Node.Ledger
import Mathlib.Algebra.GroupWithZero.Nat

namespace BeaconGossip

namespace Hub

theorem gauge_reportAt (h : Hub) (n : Nat) : (h.reportAt n).registry.gauge = h.registry.gauge := by
  funext d
  exact (h.moves_reportAt n).value _ Bool.noConfusion

end Hub

theorem Endpoint.gauge_conclude (e : Endpoint) (payload : Bytes) (v : Verdict) (h : Hub) :
    (e.conclude payload v h).registry.gauge = h.registry.gauge := by
  cases v <;> exact Registry.gauge_inbound ..

namespace Node

/-- The subnet sets that have been built, by themselves or by a controller. -/
def subnetSets (node : Node) : List SubnetSet := node.objects.filterMap (·.subnetSet?)

/-- The subnets requested from each set of the digest. -/
def requestedSubnets (node : Node) (d : ForkDigest) : List (List SubnetId) :=
  (node.subnetSets.filter (·.namer.digest = d)).map (·.requested)

variable {node : Node}

theorem requestedOf_eq (node : Node) (d : ForkDigest) :
    node.requestedOf d = (((node.requestedSubnets d).map List.length).sum : Nat) := by
  rw [requestedOf, requestedSubnets, subnetSets]
  induction node.objects with
  | nil => rfl
  | cons o rest ih =>
    rw [List.map_cons, List.sum_cons, ih, List.filterMap_cons]
    cases o.subnetSet? with
    | none => exact Int.zero_add _
    | some s =>
      by_cases hd : s.namer.digest = d
      · simp [BeaconGossip.requestedOf, hd]
      · simp [BeaconGossip.requestedOf, hd]

theorem Gauged.distinct_requested (h : node.Gauged) {d : ForkDigest} {ids : List SubnetId}
    (hm : ids ∈ node.requestedSubnets d) : ids.Nodup := by
  obtain ⟨s, hs, rfl⟩ := List.mem_map.1 hm
  obtain ⟨o, ho, hos⟩ := List.mem_filterMap.1 (List.mem_of_mem_filter hs)
  exact h.distinct o ho s hos

theorem Gauged.step {t : Interim} (h : t.node.Gauged) (s : Section) : (t.step s).node.Gauged := by
  cases s with
  | whole e => exact h.after e
  | build i root =>
    simp only [Interim.step, Node.build]
    split
    · rename_i c hc
      split
      · exact h
      · rename_i hb
        exact h.set hc rfl (Controller.metered_build hb)
    · exact h
  | handOver i =>
    simp only [Interim.step, Node.handOver]
    split
    · rename_i c hc
      exact h.set hc rfl (c.metered_handOver _)
    · exact h
  | join i optimistic =>
    simp only [Interim.step, Node.join]
    split
    · rename_i c hc
      exact h.set hc rfl (c.metered_subscribe optimistic _)
    · exact h
  | report n => exact h.of_objects rfl (Hub.gauge_reportAt ..)
  | receive e payload =>
    simp only [Interim.step, Interim.receive]
    split
    · exact h.of_objects rfl rfl
    · exact h.of_objects rfl (Registry.gauge_inbound ..)
  | conclude n v =>
    simp only [Interim.step, Interim.conclude]
    split
    · exact h
    · exact h.of_objects rfl (Endpoint.gauge_conclude ..)

theorem gauged_run (settings : Settings) (schedule : Schedule) (sections : List Section) :
    ((Interim.fresh settings schedule).run sections).node.Gauged :=
  Interim.run_invariant (P := (·.node.Gauged)) ⟨fun _ ho => absurd ho List.not_mem_nil, fun _ => rfl⟩
    (fun _ s gauged => gauged.step s) sections

/-- Whatever is requested, released, started and stopped, in whatever order: the gauge never drifts
from the sets it stands for, and so it is never negative. -/
theorem gauges_exact (settings : Settings) (schedule : Schedule) (sections : List Section)
    (d : ForkDigest) :
    let node := ((Interim.fresh settings schedule).run sections).node
    node.hub.registry.value (.attestationSubnets d) =
        (((node.requestedSubnets d).map List.length).sum : Nat) ∧
      (∀ ids ∈ node.requestedSubnets d, ids.Nodup) ∧
      0 ≤ node.hub.registry.value (.attestationSubnets d) := by
  intro node
  have gauged : node.Gauged := gauged_run settings schedule sections
  have exact : node.hub.registry.value (.attestationSubnets d) = _ :=
    (gauged.gauge d).trans (node.requestedOf_eq d)
  refine ⟨exact, fun ids hm => gauged.distinct_requested hm, ?_⟩
  rw [exact]
  exact Int.natCast_nonneg _

end Node

end BeaconGossip
