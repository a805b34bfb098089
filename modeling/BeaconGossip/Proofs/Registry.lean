import BeaconGossip.Proofs.Topic
import BeaconGossip.Registry

namespace BeaconGossip

theorem Verdict.name_inj {v v' : Verdict} (h : v.name = v'.name) : v = v' := by
  revert h
  cases v <;> cases v' <;> decide

namespace Registry

/-- Only counters of these families have moved. -/
structure Moves (families : Family → Prop) (r r' : Registry) : Prop where
  value : ∀ s : Series, ¬ families s.family → r'.value s = r.value s

variable {families families' : Family → Prop} {r r' r'' : Registry}

theorem Moves.refl (families : Family → Prop) (r : Registry) : r.Moves families r :=
  ⟨fun _ _ => rfl⟩

theorem Moves.trans (h : r.Moves families r') (h' : r'.Moves families r'') : r.Moves families r'' :=
  ⟨fun s hs => (h'.value s hs).trans (h.value s hs)⟩

theorem Moves.mono (h : r.Moves families r') (weaker : ∀ f, families f → families' f) :
    r.Moves families' r' :=
  ⟨fun s hs => h.value s fun hf => hs (weaker _ hf)⟩

theorem moves_add (r : Registry) {s : Series} (hs : families s.family) (amount : Int) :
    r.Moves families (r.add s amount) := by
  refine ⟨fun s' hs' => ?_⟩
  rw [value_add, if_neg (by rintro rfl; exact hs' hs), Int.add_zero]

/-- Only gauges of requested subnets have moved. -/
abbrev MovesGauges (r r' : Registry) : Prop := r.Moves (· = .attestationSubnets) r'

theorem moves_gauge (r : Registry) (d : ForkDigest) (amount : Int) :
    r.MovesGauges (r.add (.attestationSubnets d) amount) :=
  r.moves_add (by rfl) amount

theorem value_increment_of_ne (r : Registry) {s s' : Series} (apart : s.family ≠ s'.family) :
    (r.increment s).value s' = r.value s' := by
  rw [increment, value_add, if_neg fun h => apart (congrArg _ h), Int.add_zero]

theorem value_increment_class (r : Registry) (f : Family) (c c' : MessageClass) :
    (r.increment ⟨f, [c.name]⟩).value ⟨f, [c'.name]⟩ =
      r.value ⟨f, [c'.name]⟩ + if c = c' then 1 else 0 := by
  have same : (⟨f, [c.name]⟩ : Series) = ⟨f, [c'.name]⟩ ↔ c = c' := by
    rw [Series.mk.injEq, List.cons.injEq, and_iff_left rfl, and_iff_right rfl]
    exact ⟨MessageClass.name_inj, congrArg _⟩
  rw [increment, value_add]
  simp only [same]

theorem value_increment_inbound (r : Registry) (c c' : MessageClass) (v v' : Verdict) :
    (r.increment (.inbound c v)).value (.inbound c' v') =
      r.value (.inbound c' v') + if c = c' ∧ v = v' then 1 else 0 := by
  have same : Series.inbound c v = .inbound c' v' ↔ c = c' ∧ v = v' := by
    constructor
    · intro h
      have labels := congrArg (·.labels) h
      simp only [Series.inbound, List.cons.injEq, and_true] at labels
      exact ⟨MessageClass.name_inj labels.1, Verdict.name_inj labels.2⟩
    · rintro ⟨rfl, rfl⟩
      rfl
  rw [increment, value_add]
  simp only [same]

end Registry

end BeaconGossip
