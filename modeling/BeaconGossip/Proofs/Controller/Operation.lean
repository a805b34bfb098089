import BeaconGossip.Controller

namespace BeaconGossip.Controller

variable {c c' : Controller} {r r' : Registry} {index : UInt64}

theorem handOver_started {m : Managers} (hm : c.managers = some m) (r : Registry) :
    (c.handOver r).1 = { c with
      managers := some { m with
        attestation := (c.waiting.foldl (fun (s, r) id => SubnetSet.request s id r)
          (m.attestation, r)).1 }
      waiting := [] } := by
  simp only [handOver, hm]

theorem start_started {m : Managers} (hm : c.managers = some m) (root : Root) (optimistic : Bool)
    (schedule : Schedule) (r : Registry) :
    c.start root optimistic schedule r =
      .ok ((c.handOver r).1.subscribe optimistic, schedule, (c.handOver r).2) := by
  simp only [start, build, hm]

/-- The controller once its managers have been built. -/
def built (c : Controller) (root : Root) (digest : ForkDigest) : Controller :=
  { c with managers := some (.fresh c.settings ⟨c.fork, root⟩ digest) }

/-- What has been built stays as it is; otherwise the digest has been computed. -/
theorem build_ok {root : Root} {schedule schedule' : Schedule}
    (h : c.build root schedule r = .ok (c', schedule', r')) :
    (c.managers ≠ none ∧ c' = c ∧ schedule' = schedule ∧ r' = r) ∨
      (c.managers = none ∧ ∃ digest, schedule.digestAt c.fork.epoch = (.ok digest, schedule') ∧
        c' = c.built root digest ∧ r' = r.touch (SubnetSet.fresh c.settings digest).gauge) := by
  cases hm : c.managers with
  | some m =>
    simp only [build, hm, Except.ok.injEq, Prod.mk.injEq] at h
    obtain ⟨rfl, rfl, rfl⟩ := h
    exact .inl ⟨Option.some_ne_none m, rfl, rfl, rfl⟩
  | none =>
    simp only [build, hm] at h
    split at h
    · cases h
    · rename_i digest schedule₁ hd
      simp only [Except.ok.injEq, Prod.mk.injEq] at h
      obtain ⟨rfl, rfl, rfl⟩ := h
      exact .inr ⟨rfl, digest, hd, rfl, rfl⟩

theorem start_build {root : Root} {optimistic : Bool} {schedule schedule' : Schedule}
    (h : c.start root optimistic schedule r = .ok (c', schedule', r')) :
    ∃ c₁ r₁, c.build root schedule r = .ok (c₁, schedule', r₁) ∧
      c' = (c₁.handOver r₁).1.subscribe optimistic ∧ r' = (c₁.handOver r₁).2 := by
  simp only [start] at h
  split at h
  · cases h
  · rename_i c₁ schedule₁ r₁ hb
    simp only [Except.ok.injEq, Prod.mk.injEq] at h
    obtain ⟨rfl, rfl, rfl⟩ := h
    exact ⟨c₁, r₁, hb, rfl, rfl⟩

theorem start_unstarted (hm : c.managers = none) (root : Root) (optimistic : Bool)
    (schedule : Schedule) (r : Registry) :
    c.start root optimistic schedule r =
      match schedule.digestAt c.fork.epoch with
      | (.error e, _) => .error e
      | (.ok digest, schedule) =>
        let r := r.touch (SubnetSet.fresh c.settings digest).gauge
        .ok (((c.built root digest).handOver r).1.subscribe optimistic, schedule,
          ((c.built root digest).handOver r).2) := by
  simp only [start, build, hm]
  split <;> rename_i h <;> split at h <;> simp_all [built, Managers.fresh]

theorem requestSubnet_ok (h : c.requestSubnet index r = .ok (c', r')) :
    index < c.settings.subnetCount ∧
      ((c.managers = none ∧ c' = { c with waiting := SubnetId.insert ⟨index⟩ c.waiting }) ∨
        ∃ m, c.managers = some m ∧ c' = { c with
          managers := some { m with attestation := (m.attestation.request ⟨index⟩ r).1 } }) := by
  by_cases hi : index < c.settings.subnetCount
  · refine ⟨hi, ?_⟩
    simp only [requestSubnet, SubnetId.check, if_pos hi] at h
    cases hm : c.managers with
    | none =>
      simp only [hm, Except.ok.injEq, Prod.mk.injEq] at h
      exact .inl ⟨rfl, h.1.symm⟩
    | some m =>
      simp only [hm, Except.ok.injEq, Prod.mk.injEq] at h
      exact .inr ⟨m, rfl, h.1.symm⟩
  · simp only [requestSubnet, SubnetId.check, if_neg hi] at h
    cases h

theorem releaseSubnet_ok (h : c.releaseSubnet index r = .ok (c', r')) :
    index < c.settings.subnetCount ∧
      ((c.managers = none ∧ c' = { c with waiting := c.waiting.filter (· ≠ ⟨index⟩) }) ∨
        ∃ m, c.managers = some m ∧ c' = { c with
          managers := some { m with attestation := (m.attestation.release ⟨index⟩ r).1 } }) := by
  by_cases hi : index < c.settings.subnetCount
  · refine ⟨hi, ?_⟩
    simp only [releaseSubnet, SubnetId.check, if_pos hi] at h
    cases hm : c.managers with
    | none =>
      simp only [hm, Except.ok.injEq, Prod.mk.injEq] at h
      exact .inl ⟨rfl, h.1.symm⟩
    | some m =>
      simp only [hm, Except.ok.injEq, Prod.mk.injEq] at h
      exact .inr ⟨m, rfl, h.1.symm⟩
  · simp only [releaseSubnet, SubnetId.check, if_neg hi] at h
    cases h

theorem requestSubnet_error {e : GossipError} (h : c.requestSubnet index r = .error e) :
    ¬ index < c.settings.subnetCount := by
  intro hi
  simp only [requestSubnet, SubnetId.check, if_pos hi] at h
  split at h <;> cases h

theorem releaseSubnet_error {e : GossipError} (h : c.releaseSubnet index r = .error e) :
    ¬ index < c.settings.subnetCount := by
  intro hi
  simp only [releaseSubnet, SubnetId.check, if_pos hi] at h
  split at h <;> cases h

theorem publishAttestation_controller (c : Controller) (a : GossipAttestation) (h : Hub) :
    (c.publishAttestation a h).2.1 = { c with
      managers := c.managers.map fun m =>
        { m with attestation := (m.attestation.offer a h).2.1 } } := by
  obtain ⟨fork, settings, managers, waiting⟩ := c
  cases managers with
  | none => rfl
  | some m =>
    simp only [publishAttestation, Option.map_some]
    split <;> rfl

end BeaconGossip.Controller
