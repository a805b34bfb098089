import BeaconGossip.Proofs.Schedule

namespace BeaconGossip

/-- The epoch of the upgrade is decided. -/
def Fork.Scheduled (f : Fork) : Prop := f.epoch ≠ Fork.unscheduledEpoch

instance (f : Fork) : Decidable f.Scheduled :=
  inferInstanceAs (Decidable (f.epoch ≠ Fork.unscheduledEpoch))

namespace Schedule

variable {s s' : Schedule} {forks : List Fork} {root : Option Root} {epoch : Epoch}

theorem mem_forks {f : Fork} : f ∈ (ofForks forks root).forks ↔ f ∈ forks ∧ f.Scheduled := by
  rw [ofForks, (List.mergeSort_perm _ _).mem_iff, List.mem_filter, decide_eq_true_eq,
    Fork.Scheduled]

/-- Every digest that is remembered is the one that would be computed. -/
def Sound (s : Schedule) : Prop := ∀ version root, s.digestOf version root = .compute version root

theorem sound_ofForks (forks : List Fork) (root : Option Root) : (ofForks forks root).Sound :=
  fun _ _ => rfl

theorem Sound.alike (h : s.Sound) (a : s.Alike s') : s'.Sound :=
  fun version root => (a.digests version root).trans (h version root)

theorem Sound.digestAt_ok {fork : Fork} {found : Root} (h : s.Sound)
    (active : s.forkAt epoch = .ok fork) (known : s.genesisRoot = some found) :
    (s.digestAt epoch).1 = .ok (.compute fork.currentVersion found) := by
  rw [digestAt_fst, active, known]
  exact congrArg _ (h _ _)

/-- What is not answered is not remembered. -/
theorem digestAt_error {e : GossipError} (h : (s.digestAt epoch).1 = .error e) :
    (s.digestAt epoch).2 = s := by
  unfold digestAt at h ⊢
  cases hf : s.forkAt epoch with
  | error => rfl
  | ok fork =>
    cases hr : s.genesisRoot with
    | none => rfl
    | some found =>
      simp only [hf, hr] at h ⊢
      cases hk : s.known.lookup (fork.currentVersion, found) with
      | none =>
        rw [hk] at h
        cases h
      | some => rfl

/-- What a schedule is told, or asked for. -/
inductive Query where
  | setGenesisRoot (root : Root)
  | digestAt (epoch : Epoch)

def ask (s : Schedule) : Query → Schedule
  | .setGenesisRoot root => s.setGenesisRoot root
  | .digestAt epoch => (s.digestAt epoch).2

def run (s : Schedule) (qs : List Query) : Schedule := qs.foldl ask s

/-- The root of the last query that set one, and before there was any, the initial one. -/
def latestRoot (initial : Option Root) : List Query → Option Root
  | [] => initial
  | .setGenesisRoot root :: qs => latestRoot (some root) qs
  | .digestAt _ :: qs => latestRoot initial qs

theorem alike_ask (s : Schedule) (q : Query) : s.Alike (s.ask q) := by
  cases q with
  | setGenesisRoot root => exact s.alike_setGenesisRoot root
  | digestAt epoch => exact (s.digestAt_snd epoch).1

theorem alike_run (s : Schedule) (qs : List Query) : s.Alike (s.run qs) := by
  induction qs generalizing s with
  | nil => exact .refl s
  | cons q qs ih => exact (s.alike_ask q).trans (ih _)

theorem genesisRoot_run (s : Schedule) (qs : List Query) :
    (s.run qs).genesisRoot = latestRoot s.genesisRoot qs := by
  induction qs generalizing s with
  | nil => rfl
  | cons q qs ih =>
    refine (ih _).trans ?_
    cases q with
    | setGenesisRoot root => rfl
    | digestAt epoch => rw [ask, (s.digestAt_snd epoch).2, latestRoot]

/-- The schedule answers as one that remembers nothing, made of the forks and the root. -/
structure Transparent (forks : List Fork) (root : Option Root) (s : Schedule) : Prop where
  /-- That no fork is active is said whether or not the root is known. -/
  unknown : ∀ epoch, (∀ f ∈ forks, f.Scheduled → ¬ f.epoch ≤ epoch) →
    (s.digestAt epoch).1 = .error (.unknownFork epoch)
  unavailable : ∀ epoch, (∃ f ∈ forks, f.Scheduled ∧ f.epoch ≤ epoch) → root = none →
    (s.digestAt epoch).1 = .error (.chainUnavailable "genesis validators root not yet known")
  computed : ∀ epoch found, (∃ f ∈ forks, f.Scheduled ∧ f.epoch ≤ epoch) → root = some found →
    ∃ fork, s.forkAt epoch = .ok fork ∧
      (s.digestAt epoch).1 = .ok (.compute fork.currentVersion found)
  failed : ∀ epoch e, (s.digestAt epoch).1 = .error e → (s.digestAt epoch).2 = s

/-- A schedule that has been told and asked anything answers as if it had never been asked. -/
theorem transparent (forks : List Fork) (initial : Option Root) (qs : List Query) :
    Transparent forks (latestRoot initial qs) ((ofForks forks initial).run qs) := by
  have alike := (ofForks forks initial).alike_run qs
  have genesisRoot := (ofForks forks initial).genesisRoot_run qs
  have mem {f : Fork} : f ∈ ((ofForks forks initial).run qs).forks ↔ f ∈ forks ∧ f.Scheduled := by
    rw [alike.forks, mem_forks]
  refine ⟨fun epoch inactive => ?_, fun epoch active unset => ?_, fun epoch found active set => ?_,
    fun epoch e => digestAt_error⟩
  · refine digestAt_error_iff.2 (.fork fun f hf => ?_)
    obtain ⟨hm, hs⟩ := mem.1 hf
    exact inactive f hm hs
  · obtain ⟨f, hm, hs, he⟩ := active
    exact digestAt_error_iff.2 (.root ⟨f, mem.2 ⟨hm, hs⟩, he⟩ (genesisRoot.trans unset))
  · obtain ⟨f, hm, hs, he⟩ := active
    cases hf : ((ofForks forks initial).run qs).forkAt epoch with
    | error e => exact ((forkAt_error hf).2 f (mem.2 ⟨hm, hs⟩) he).elim
    | ok fork =>
      have sound := (sound_ofForks forks initial).alike alike
      exact ⟨fork, rfl, sound.digestAt_ok hf (genesisRoot.trans set)⟩

end Schedule

end BeaconGossip
