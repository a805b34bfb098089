import BeaconGossip.Inbound
import BeaconGossip.Proofs.SubnetSet.Requested
import BeaconGossip.Proofs.Topic.Naming
import BeaconGossip.TopicManager

namespace BeaconGossip

namespace Registry

/-- The value of the gauge of the digest. -/
def gauge (r : Registry) (d : ForkDigest) : Int := r.value (.attestationSubnets d)

theorem gauge_add_of_ne (r : Registry) {s : Series} (other : s.family ≠ .attestationSubnets)
    (amount : Int) : (r.add s amount).gauge = r.gauge := by
  funext d
  have apart : s ≠ .attestationSubnets d := fun h => other (congrArg (·.family) h)
  rw [gauge, gauge, value_add, if_neg apart, Int.add_zero]

@[simp] theorem gauge_published (r : Registry) (c : MessageClass) :
    (r.increment (.published c)).gauge = r.gauge := gauge_add_of_ne r (by rintro ⟨⟩) 1

@[simp] theorem gauge_publishFailures (r : Registry) (c : MessageClass) :
    (r.increment (.publishFailures c)).gauge = r.gauge := gauge_add_of_ne r (by rintro ⟨⟩) 1

@[simp] theorem gauge_subscribeFailures (r : Registry) (c : MessageClass) :
    (r.increment (.subscribeFailures c)).gauge = r.gauge := gauge_add_of_ne r (by rintro ⟨⟩) 1

@[simp] theorem gauge_inbound (r : Registry) (c : MessageClass) (v : Verdict) :
    (r.increment (.inbound c v)).gauge = r.gauge := gauge_add_of_ne r (by rintro ⟨⟩) 1

@[simp] theorem gauge_publishRequests (r : Registry) (c : MessageClass) :
    (r.increment (.publishRequests c)).gauge = r.gauge := gauge_add_of_ne r (by rintro ⟨⟩) 1

@[simp] theorem gauge_touch (r : Registry) (s : Series) : (r.touch s).gauge = r.gauge := by
  funext d
  rw [gauge, gauge, touch, value_add, ite_self, Int.add_zero]

end Registry

namespace Hub

@[simp] theorem gauge_countReply (r : Registry) (c : MessageClass) (reply : Overlay.Reply) :
    (countReply r c reply).gauge = r.gauge := by
  cases reply <;> simp [countReply]

theorem gauge_reportAll (overlay : Overlay) (r : Registry) (publications : List Publication) :
    (reportAll overlay r publications).1.gauge = r.gauge := by
  induction publications generalizing r with
  | nil => rfl
  | cons p rest ih =>
    have first : (reportOne overlay r p).1.gauge = r.gauge := by
      rw [reportOne]
      split
      · exact gauge_countReply ..
      · rfl
    exact (ih _).trans first

@[simp] theorem gauge_report (h : Hub) : h.report.registry.gauge = h.registry.gauge :=
  gauge_reportAll ..

end Hub

theorem Endpoint.gauge_deliver (e : Endpoint) (payload : Bytes) (h : Hub) :
    (e.deliver payload h).2.registry.gauge = h.registry.gauge := by
  unfold deliver
  simp only [Hub.count, Registry.gauge_inbound]
  split
  · split <;> rfl
  · rfl

namespace Channel

theorem gauge_finish (c : Channel) (ch : Change) (result : Except GossipError Unit)
    (r : Registry) : (c.finish ch result r).2.gauge = r.gauge := by
  cases result with
  | ok => rfl
  | error e => exact Registry.gauge_subscribeFailures ..

theorem gauge_act (c : Channel) (reading : Reading) (h : Hub) :
    (c.act reading h).2.registry.gauge = h.registry.gauge := by
  unfold act
  split <;> rfl

theorem gauge_hear (c : Channel) (h : Hub) :
    (c.hear h).2.registry.gauge = h.registry.gauge := by
  unfold hear
  split
  · rfl
  · split
    · rfl
    · exact gauge_finish ..

theorem gauge_poll (c : Channel) (h : Hub) :
    (c.poll h).2.registry.gauge = h.registry.gauge := by
  unfold poll
  split
  · exact gauge_hear ..
  · exact (gauge_hear ..).trans (gauge_act ..)

@[simp] theorem gauge_publish (c : Channel) (payload : Bytes) (h : Hub) :
    (c.publish payload h).2.registry.gauge = h.registry.gauge := by
  unfold publish
  split
  · exact Registry.gauge_publishFailures ..
  · rfl

end Channel

namespace TopicManager

@[simp] theorem gauge_gossip (m : TopicManager) (message : Message) (h : Hub) :
    (m.gossip message h).2.registry.gauge = h.registry.gauge := by
  unfold gossip
  split
  · exact m.channel.gauge_publish ..
  · rfl

@[simp] theorem gauge_offer (m : TopicManager) (message : Message) (h : Hub) :
    (m.offer message h).2.registry.gauge = h.registry.gauge := by
  simp [offer, Hub.count]

@[simp] theorem gauge_offerAggregate (m : TopicManager) (a : GossipAttestation) (h : Hub) :
    (m.offerAggregate a h).2.registry.gauge = h.registry.gauge := by
  unfold offerAggregate
  simp only
  split
  · exact Registry.gauge_publishRequests ..
  · split
    · split
      · simp [Hub.count]
      · exact Registry.gauge_publishRequests ..
    · exact Registry.gauge_publishRequests ..

end TopicManager

namespace SubnetSet

@[simp] theorem gauge_gossip (s : SubnetSet) (a : GossipAttestation) (h : Hub) :
    (s.gossip a h).2.2.registry.gauge = h.registry.gauge := Channel.gauge_publish ..

@[simp] theorem gauge_offer (s : SubnetSet) (a : GossipAttestation) (h : Hub) :
    (s.offer a h).2.2.registry.gauge = h.registry.gauge := by
  unfold offer
  simp only
  split
  · split
    · simp [Hub.count]
    · exact Registry.gauge_publishRequests ..
  · exact Registry.gauge_publishRequests ..

end SubnetSet

theorem SubnetId.insert_perm {id : SubnetId} {ids : List SubnetId} (h : id ∉ ids) :
    (id.insert ids).Perm (id :: ids) := by
  induction ids with
  | nil => exact .refl _
  | cons x rest ih =>
    rw [List.mem_cons, not_or] at h
    rw [insert]
    split
    · exact .refl _
    · rw [if_neg h.1]
      exact ((ih h.2).cons x).trans (.swap id x rest)

/-- The subnets that a set has requested under the digest. -/
def requestedOf (d : ForkDigest) : Option SubnetSet → Int
  | none => 0
  | some s => if s.namer.digest = d then s.requested.length else 0

/-- No subnet counts twice. -/
def Distinct (s : Option SubnetSet) : Prop := ∀ x ∈ s, x.requested.Nodup

/-- The gauges have followed what became of the set. -/
structure Metered (s s' : Option SubnetSet) (r r' : Registry) : Prop where
  distinct : Distinct s → Distinct s'
  gauge : Distinct s → ∀ d, r'.gauge d + requestedOf d s = r.gauge d + requestedOf d s'

namespace Metered

variable {s s' s'' : Option SubnetSet} {r r' r'' : Registry}

theorem same (s : Option SubnetSet) (h : r'.gauge = r.gauge) : Metered s s r r' :=
  ⟨id, fun _ d => by rw [h]⟩

theorem refl (s : Option SubnetSet) (r : Registry) : Metered s s r r := same s rfl

theorem trans (h : Metered s s' r r') (h' : Metered s' s'' r' r'') : Metered s s'' r r'' := by
  refine ⟨fun distinct => h'.distinct (h.distinct distinct), fun distinct d => ?_⟩
  have first := h.gauge distinct d
  have second := h'.gauge (h.distinct distinct) d
  omega

/-- Whether the set is on, and what its channels are at, does not count. -/
theorem of_fields {x x' : SubnetSet} (namer : x'.namer = x.namer)
    (requested : x'.requested = x.requested) (h : r'.gauge = r.gauge) :
    Metered (some x) (some x') r r' := by
  refine ⟨fun distinct y hy => ?_, fun _ d => ?_⟩
  · obtain rfl := Option.some.inj hy
    rw [requested]
    exact distinct x rfl
  · rw [h, requestedOf, requestedOf, namer, requested]

end Metered

namespace SubnetSet

variable (s : SubnetSet) (id : SubnetId) (r : Registry)

/-- A set moves the gauge by what it gains. -/
theorem metered_of_add {s' : SubnetSet} {amount : Int} (namer : s'.namer = s.namer)
    (distinct : s.requested.Nodup → s'.requested.Nodup)
    (gain : s.requested.Nodup → (s'.requested.length : Int) = s.requested.length + amount) :
    Metered (some s) (some s') r (r.add s.gauge amount) := by
  refine ⟨fun h x hx => ?_, fun h d => ?_⟩
  · obtain rfl := Option.some.inj hx
    exact distinct (h s rfl)
  · have gained := gain (h s rfl)
    rw [Registry.gauge, Registry.value_add, requestedOf, requestedOf, namer, gauge]
    by_cases hd : s.namer.digest = d
    · rw [if_pos hd, if_pos hd, if_pos (by rw [hd]), Registry.gauge, gained]
      omega
    · have apart : Registry.Series.attestationSubnets s.namer.digest ≠ .attestationSubnets d := by
        intro h
        have labels := congrArg (·.labels) h
        exact hd (ForkDigest.toString_inj (List.cons.inj labels).1)
      rw [if_neg hd, if_neg hd, if_neg apart, Registry.gauge]
      omega

theorem request_namer : (s.request id r).1.namer = s.namer := (serves_request s id r).namer

theorem release_namer : (s.release id r).1.namer = s.namer := (serves_release s id r).namer

theorem metered_request : Metered (some s) (some (s.request id r).1) r (s.request id r).2 := by
  by_cases hm : id ∈ s.requested
  · rw [request, if_pos hm]
    exact .refl ..
  · have perm := SubnetId.insert_perm hm
    have requested : (s.request id r).1.requested = id.insert s.requested := by
      simp only [request, if_neg hm]
      split <;> rfl
    have registry : (s.request id r).2 = r.add s.gauge 1 := by simp only [request, if_neg hm]; rfl
    rw [registry]
    refine s.metered_of_add r (s.request_namer id r) (fun h => ?_) fun _ => ?_
    · rw [requested]
      exact perm.nodup_iff.2 (List.nodup_cons.2 ⟨hm, h⟩)
    · rw [requested, perm.length_eq, List.length_cons]
      rfl

theorem metered_release : Metered (some s) (some (s.release id r).1) r (s.release id r).2 := by
  by_cases hm : id ∈ s.requested
  · have requested : (s.release id r).1.requested = s.requested.filter (· ≠ id) := by
      simp only [release, if_pos hm]
      rfl
    have registry : (s.release id r).2 = r.add s.gauge (-1) := by
      simp only [release, if_pos hm]
      rfl
    rw [registry]
    refine s.metered_of_add r (s.release_namer id r) (fun h => ?_) fun h => ?_
    · rw [requested]
      exact h.filter _
    · have erased : s.requested.filter (· ≠ id) = s.requested.erase id := by
        rw [h.erase_eq_filter]
        exact List.filter_congr fun x _ => Bool.eq_iff_iff.2 (by simp)
      have length := List.length_erase_of_mem hm
      have pos := List.length_pos_of_mem hm
      rw [requested, erased]
      omega
  · rw [release, if_neg hm]
    exact .refl ..

theorem metered_requests (ids : List SubnetId) :
    Metered (some s) (some (ids.foldl (fun (s, r) id => SubnetSet.request s id r) (s, r)).1) r
      (ids.foldl (fun (s, r) id => SubnetSet.request s id r) (s, r)).2 := by
  induction ids generalizing s r with
  | nil => exact .refl ..
  | cons id rest ih => exact (s.metered_request id r).trans (ih _ _)

end SubnetSet

end BeaconGossip
