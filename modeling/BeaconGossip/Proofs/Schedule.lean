import BeaconGossip.Fork.Schedule

namespace BeaconGossip.Schedule

variable {s s' s'' : Schedule} {epoch : Epoch} {e : GossipError}

/-- Why there is no digest for the epoch. That no fork is active is found out first. -/
inductive Lacks (s : Schedule) (epoch : Epoch) : GossipError → Prop where
  | fork (inactive : ∀ f ∈ s.forks, ¬ f.epoch ≤ epoch) : Lacks s epoch (.unknownFork epoch)
  | root (active : ∃ f ∈ s.forks, f.epoch ≤ epoch) (unset : s.genesisRoot = none) :
    Lacks s epoch (.chainUnavailable "genesis validators root not yet known")

theorem forkAt_ok {fork : Fork} (h : s.forkAt epoch = .ok fork) :
    fork ∈ s.forks ∧ fork.epoch ≤ epoch := by
  rw [forkAt] at h
  split at h
  · rename_i f hf
    rw [Except.ok.injEq] at h
    subst h
    exact ⟨List.mem_reverse.1 (List.mem_of_find?_eq_some hf), by simpa using List.find?_some hf⟩
  · cases h

theorem forkAt_error (h : s.forkAt epoch = .error e) :
    e = .unknownFork epoch ∧ ∀ f ∈ s.forks, ¬ f.epoch ≤ epoch := by
  rw [forkAt] at h
  split at h
  · cases h
  · rename_i hn
    rw [Except.error.injEq] at h
    refine ⟨h.symm, fun f hf => ?_⟩
    simpa using List.find?_eq_none.1 hn f (List.mem_reverse.2 hf)

/-- The digest that goes with the version and the root, remembered or computed. -/
def digestOf (s : Schedule) (version : Version) (root : Root) : ForkDigest :=
  (s.known.lookup (version, root)).getD (.compute version root)

theorem digestAt_fst (s : Schedule) (epoch : Epoch) :
    (s.digestAt epoch).1 =
      match s.forkAt epoch with
      | .error e => .error e
      | .ok fork =>
        match s.genesisRoot with
        | none => .error rootUnknown
        | some root => .ok (s.digestOf fork.currentVersion root) := by
  unfold digestAt
  cases s.forkAt epoch with
  | error e => rfl
  | ok fork =>
    cases s.genesisRoot with
    | none => rfl
    | some root =>
      simp only [digestOf]
      cases s.known.lookup (fork.currentVersion, root) <;> rfl

theorem digestAt_error_iff : (s.digestAt epoch).1 = .error e ↔ s.Lacks epoch e := by
  rw [digestAt_fst]
  cases hf : s.forkAt epoch with
  | error e' =>
    obtain ⟨rfl, inactive⟩ := forkAt_error hf
    simp only [Except.error.injEq]
    constructor
    · rintro rfl
      exact .fork inactive
    · intro h
      cases h with
      | fork => rfl
      | root active =>
        obtain ⟨f, hm, he⟩ := active
        exact (inactive f hm he).elim
  | ok fork =>
    obtain ⟨hm, he⟩ := forkAt_ok hf
    cases hr : s.genesisRoot with
    | none =>
      simp only [Except.error.injEq]
      constructor
      · rintro rfl
        exact .root ⟨fork, hm, he⟩ hr
      · intro h
        cases h with
        | fork inactive => exact (inactive fork hm he).elim
        | root => rfl
    | some root =>
      refine iff_of_false (by rintro ⟨⟩) fun h => ?_
      cases h with
      | fork inactive => exact inactive fork hm he
      | root _ unset =>
        rw [hr] at unset
        cases unset

/-- The schedules have the same forks, and name the same digests. -/
structure Alike (s s' : Schedule) : Prop where
  forks : s'.forks = s.forks
  digests : ∀ version root, s'.digestOf version root = s.digestOf version root

theorem Alike.refl (s : Schedule) : s.Alike s := ⟨rfl, fun _ _ => rfl⟩

theorem Alike.symm (h : s.Alike s') : s'.Alike s :=
  ⟨h.forks.symm, fun version root => (h.digests version root).symm⟩

theorem Alike.trans (h : s.Alike s') (h' : s'.Alike s'') : s.Alike s'' :=
  ⟨h'.forks.trans h.forks,
    fun version root => (h'.digests version root).trans (h.digests version root)⟩

theorem alike_setGenesisRoot (s : Schedule) (root : Root) : s.Alike (s.setGenesisRoot root) :=
  ⟨rfl, fun _ _ => rfl⟩

theorem digestOf_remember (s : Schedule) (key : Version × Root) (version : Version) (root : Root)
    (unknown : s.known.lookup key = none) :
    { s with known := (key, ForkDigest.compute key.1 key.2) :: s.known }.digestOf version root =
      s.digestOf version root := by
  rw [digestOf, digestOf, List.lookup_cons]
  split
  · rename_i h
    rw [beq_iff_eq] at h
    subst h
    rw [unknown]
    rfl
  · rfl

theorem digestAt_snd (s : Schedule) (epoch : Epoch) :
    s.Alike (s.digestAt epoch).2 ∧ (s.digestAt epoch).2.genesisRoot = s.genesisRoot := by
  cases hf : s.forkAt epoch with
  | error e => simp only [digestAt, hf, Alike.refl, and_self]
  | ok fork =>
    cases hr : s.genesisRoot with
    | none => simp only [digestAt, hf, hr, Alike.refl, and_self]
    | some root =>
      cases unknown : s.known.lookup (fork.currentVersion, root) with
      | some digest => simp only [digestAt, hf, hr, unknown, Alike.refl, and_self]
      | none =>
        simp only [digestAt, hf, hr, unknown, and_true]
        refine ⟨rfl, fun version root' => ?_⟩
        exact s.digestOf_remember (fork.currentVersion, root) version root' unknown

theorem Alike.forkAt (h : s.Alike s') (epoch : Epoch) : s'.forkAt epoch = s.forkAt epoch := by
  rw [Schedule.forkAt, Schedule.forkAt, h.forks]

theorem Alike.digestAt (h : s.Alike s') (root : s'.genesisRoot = s.genesisRoot) (epoch : Epoch) :
    (s'.digestAt epoch).1 = (s.digestAt epoch).1 := by
  rw [digestAt_fst, digestAt_fst, h.forkAt, root]
  simp only [h.digests]

end BeaconGossip.Schedule
