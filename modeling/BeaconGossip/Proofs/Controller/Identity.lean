import BeaconGossip.Proofs.Controller.Lifecycle

namespace BeaconGossip.Controller

open Node (Act Event)

/-- The fork information and the digest that the managers have been built with. -/
def identity (c : Controller) : Option (ForkInfo × ForkDigest) :=
  c.managers.map fun m => (m.info, m.digest)

structure Fixed (c c' : Controller) : Prop where
  fork : c'.fork = c.fork
  identity : c'.identity = c.identity

variable {c c' c'' : Controller} {r r' : Registry} {index : UInt64}

theorem info_eq (c : Controller) : c.info = c.identity.map (·.1) := by
  rw [info, identity, Option.map_map]
  rfl

theorem digest_eq (c : Controller) : c.digest = c.identity.map (·.2) := by
  rw [digest, identity, Option.map_map]
  rfl

theorem identity_started {m : Managers} (hm : c.managers = some m) :
    c.identity = some (m.info, m.digest) := by
  rw [identity, hm, Option.map_some]

theorem identity_eq_none_iff : c.identity = none ↔ c.managers = none := Option.map_eq_none_iff

namespace Fixed

theorem refl (c : Controller) : c.Fixed c := ⟨rfl, rfl⟩

theorem trans (h : c.Fixed c') (h' : c'.Fixed c'') : c.Fixed c'' :=
  ⟨h'.fork.trans h.fork, h'.identity.trans h.identity⟩

theorem digest (h : c.Fixed c') : c'.digest = c.digest := by
  rw [digest_eq, digest_eq, h.identity]

end Fixed

theorem fixed_map (c : Controller) (f : Managers → Managers)
    (hf : ∀ m, (f m).info = m.info ∧ (f m).digest = m.digest) :
    c.Fixed { c with managers := c.managers.map f } := by
  refine ⟨rfl, ?_⟩
  rw [identity, identity, Option.map_map]
  congr 1
  funext m
  exact congrArg₂ Prod.mk (hf m).1 (hf m).2

theorem fixed_subnets {m : Managers} (hm : c.managers = some m) (s : SubnetSet)
    (waiting : List SubnetId) :
    c.Fixed { c with managers := some { m with attestation := s }, waiting := waiting } := by
  refine ⟨rfl, ?_⟩
  rw [identity, identity, hm]
  rfl

theorem handOver_fixed (c : Controller) (r : Registry) : c.Fixed (c.handOver r).1 := by
  cases hm : c.managers with
  | none =>
    simp only [handOver, hm]
    exact .refl c
  | some m =>
    rw [handOver_started hm]
    exact fixed_subnets hm ..

theorem subscribe_fixed (c : Controller) (head : Bool) : c.Fixed (c.subscribe head) :=
  fixed_map c _ fun _ => ⟨rfl, rfl⟩

theorem stop_fixed (c : Controller) : c.Fixed c.stop := fixed_map c _ fun _ => ⟨rfl, rfl⟩

theorem stopOptimistic_fixed (c : Controller) : c.Fixed c.stopOptimistic :=
  fixed_map c _ fun _ => ⟨rfl, rfl⟩

theorem requestSubnet_fixed (h : c.requestSubnet index r = .ok (c', r')) : c.Fixed c' := by
  obtain ⟨_, ⟨_, rfl⟩ | ⟨m, hm, rfl⟩⟩ := requestSubnet_ok h
  · exact ⟨rfl, rfl⟩
  · exact fixed_subnets hm ..

theorem releaseSubnet_fixed (h : c.releaseSubnet index r = .ok (c', r')) : c.Fixed c' := by
  obtain ⟨_, ⟨_, rfl⟩ | ⟨m, hm, rfl⟩⟩ := releaseSubnet_ok h
  · exact ⟨rfl, rfl⟩
  · exact fixed_subnets hm ..

theorem publishAttestation_fixed (c : Controller) (a : GossipAttestation) (h : Hub) :
    c.Fixed (c.publishAttestation a h).2.1 := by
  rw [publishAttestation_controller]
  exact fixed_map c _ fun _ => ⟨rfl, rfl⟩

theorem Turned.fixed (h : c.Turned c') : c.Fixed c' := by
  induction h with
  | same => exact .refl c
  | @turn c' lane d hub _ _ ih =>
    refine ih.trans (fixed_map c' _ fun m => ?_)
    cases lane <;> exact ⟨rfl, rfl⟩

theorem handOver_subscribe_fixed (c : Controller) (r : Registry) (head : Bool) :
    c.Fixed ((c.handOver r).1.subscribe head) :=
  (handOver_fixed c r).trans (subscribe_fixed _ head)

theorem performed_fixed {node : Node} {act : Act} (other : ∀ root head, act ≠ .start root head) :
    c.Fixed (c.performed node act) := by
  cases act with
  | start root head => exact (other root head rfl).elim
  | stop => exact stop_fixed c
  | stopOptimistic => exact stopOptimistic_fixed c
  | requestSubnet index =>
    simp only [performed]
    cases hs : c.requestSubnet index node.hub.registry with
    | error e => exact .refl c
    | ok p => exact requestSubnet_fixed hs
  | releaseSubnet index =>
    simp only [performed]
    cases hs : c.releaseSubnet index node.hub.registry with
    | error e => exact .refl c
    | ok p => exact releaseSubnet_fixed hs
  | publishAttestation a =>
    simp only [performed]
    cases node.attestations[a]? with
    | none => exact .refl c
    | some att => exact publishAttestation_fixed c att node.hub
  | _ => exact .refl c

theorem performed_started {m : Managers} (hm : c.managers = some m) (node : Node) (act : Act) :
    c.Fixed (c.performed node act) := by
  by_cases h : ∃ root head, act = .start root head
  · obtain ⟨root, head, rfl⟩ := h
    rw [performed, start_started hm]
    exact handOver_subscribe_fixed c node.hub.registry head
  · exact performed_fixed fun root head he => h ⟨root, head, he⟩

theorem Fixed.managers (h : c.Fixed c') {m : Managers} (hm : c.managers = some m) :
    ∃ m', c'.managers = some m' := by
  have identity := h.identity
  rw [identity_started hm] at identity
  obtain ⟨m', hm', _⟩ := Option.map_eq_some_iff.1 identity
  exact ⟨m', hm'⟩

section Events

variable {node : Node} {i : Nat} {m : Managers}

theorem fixed_after (hc : node.objects[i]? = some (.controller c)) (hm : c.managers = some m)
    (e : Event) : ∃ c', (node.after e).objects[i]? = some (.controller c') ∧ c.Fixed c' := by
  by_cases he : ∃ act, e = .act i act
  · obtain ⟨act, rfl⟩ := he
    exact ⟨_, objects_perform hc act, performed_started hm node act⟩
  · obtain ⟨c', hc', turned⟩ := turned_after hc fun act h => he ⟨act, h⟩
    exact ⟨c', hc', turned.fixed⟩

theorem fixed_run (hc : node.objects[i]? = some (.controller c)) (hm : c.managers = some m)
    (es : List Event) : ∃ c', (node.run es).objects[i]? = some (.controller c') ∧ c.Fixed c' := by
  induction es generalizing node c m with
  | nil => exact ⟨c, hc, .refl c⟩
  | cons e es ih =>
    obtain ⟨c₁, hc₁, h₁⟩ := fixed_after hc hm e
    obtain ⟨m₁, hm₁⟩ := h₁.managers hm
    obtain ⟨c₂, hc₂, h₂⟩ := ih hc₁ hm₁
    exact ⟨c₂, hc₂, h₁.trans h₂⟩

end Events

end BeaconGossip.Controller
