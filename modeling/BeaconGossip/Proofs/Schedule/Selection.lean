import BeaconGossip.Proofs.Schedule.Cache
import Mathlib.Order.Bounds.Defs
import Mathlib.Data.List.Find
import Mathlib.Data.List.Nodup
import Mathlib.Data.List.Pairwise

namespace BeaconGossip

/-- Of the forks scheduled and active at the epoch the fork is one of greatest epoch, and of those
the last of the list. -/
structure Fork.Selected (forks : List Fork) (epoch : Epoch) (fork : Fork) : Prop where
  scheduled : fork.Scheduled
  active : fork.epoch ≤ epoch
  greatest : ∀ f ∈ forks, f.Scheduled → f.epoch ≤ epoch → f.epoch ≤ fork.epoch
  last : ∃ before after, forks = before ++ fork :: after ∧ ∀ f ∈ after, f.epoch ≠ fork.epoch

namespace Schedule

variable {s : Schedule} {forks forks' : List Fork} {root : Option Root} {epoch epoch' : Epoch}
  {fork fork' : Fork} {e : GossipError} {next : Epoch}

theorem epoch_le_trans (f f' f'' : Fork) (h : decide (f.epoch ≤ f'.epoch) = true)
    (h' : decide (f'.epoch ≤ f''.epoch) = true) : decide (f.epoch ≤ f''.epoch) = true := by
  rw [decide_eq_true_eq] at h h' ⊢
  exact UInt64.le_trans h h'

theorem epoch_le_total (f f' : Fork) :
    (decide (f.epoch ≤ f'.epoch) || decide (f'.epoch ≤ f.epoch)) = true := by
  simpa using UInt64.le_total f.epoch f'.epoch

theorem sorted_forks (forks : List Fork) (root : Option Root) :
    (ofForks forks root).forks.Pairwise (·.epoch ≤ ·.epoch) := by
  have h : (ofForks forks root).forks.Pairwise fun f f' => decide (f.epoch ≤ f'.epoch) = true :=
    List.pairwise_mergeSort epoch_le_trans epoch_le_total _
  simpa only [decide_eq_true_eq] using h

/-- The sort is stable: forks of one epoch stand as they stood. -/
theorem filter_forks (forks : List Fork) (root : Option Root) {start : Epoch}
    (scheduled : start ≠ Fork.unscheduledEpoch) :
    (ofForks forks root).forks.filter (·.epoch = start) = forks.filter (·.epoch = start) := by
  let kept := forks.filter (·.epoch ≠ Fork.unscheduledEpoch)
  have same : kept.filter (·.epoch = start) = forks.filter (·.epoch = start) := by
    rw [List.filter_filter]
    refine List.filter_congr fun f _ => ?_
    simp only [Bool.and_eq_decide, decide_eq_decide, decide_eq_true_eq, and_iff_left_iff_imp]
    rintro rfl
    exact scheduled
  have stands : (kept.filter (·.epoch = start)).Sublist (ofForks forks root).forks := by
    refine List.sublist_mergeSort epoch_le_trans epoch_le_total ?_ List.filter_sublist
    refine List.pairwise_of_forall_mem_list fun f hf f' hf' => ?_
    simp only [List.mem_filter, decide_eq_true_eq] at hf hf' ⊢
    rw [hf.2, hf'.2]
    exact UInt64.le_refl _
  have sublist := stands.filter (·.epoch = start)
  rw [List.filter_filter] at sublist
  simp only [Bool.and_self] at sublist
  have count := ((List.mergeSort_perm kept (·.epoch ≤ ·.epoch)).filter (·.epoch = start)).length_eq
  rw [← same]
  exact (sublist.eq_of_length count.symm).symm

theorem forkAt_eq_ok : s.forkAt epoch = .ok fork ↔
    s.forks.reverse.find? (·.epoch ≤ epoch) = some fork := by
  rw [forkAt]
  cases s.forks.reverse.find? (·.epoch ≤ epoch) with
  | none => exact iff_of_false (by rintro ⟨⟩) (by rintro ⟨⟩)
  | some f => rw [Except.ok.injEq, Option.some.injEq]

theorem forkAt_eq_error : s.forkAt epoch = .error e ↔
    e = .unknownFork epoch ∧ ∀ f ∈ s.forks, ¬ f.epoch ≤ epoch := by
  refine ⟨forkAt_error, fun ⟨he, inactive⟩ => ?_⟩
  cases hf : s.forkAt epoch with
  | ok fork => exact (inactive fork (forkAt_ok hf).1 (forkAt_ok hf).2).elim
  | error e' => rw [he, (forkAt_error hf).1]

end Schedule

namespace Fork

variable {forks : List Fork} {epoch : Epoch} {fork fork' : Fork}

/-- The last fork of its epoch is found from the end. -/
theorem last_iff : (∃ before after, forks = before ++ fork :: after ∧
      ∀ f ∈ after, f.epoch ≠ fork.epoch) ↔
    (forks.filter (·.epoch = fork.epoch)).getLast? = some fork := by
  rw [List.getLast?_filter, List.find?_eq_some_iff_append]
  constructor
  · rintro ⟨before, after, rfl, later⟩
    exact ⟨decide_eq_true rfl, after.reverse, before.reverse, by simp,
      fun f hf => by simpa using later f (List.mem_reverse.1 hf)⟩
  · rintro ⟨-, as, bs, split, later⟩
    refine ⟨bs.reverse, as.reverse, ?_, fun f hf => ?_⟩
    · rw [← forks.reverse_reverse, split]
      simp
    · simpa using later f (List.mem_reverse.1 hf)

theorem Selected.unique (h : Selected forks epoch fork) (h' : Selected forks epoch fork') :
    fork = fork' := by
  have mem {f : Fork} (h : Selected forks epoch f) : f ∈ forks := by
    obtain ⟨before, after, rfl, -⟩ := h.last
    exact List.mem_append_right _ List.mem_cons_self
  have start : fork.epoch = fork'.epoch :=
    UInt64.le_antisymm (h'.greatest fork (mem h) h.scheduled h.active)
      (h.greatest fork' (mem h') h'.scheduled h'.active)
  have last := last_iff.1 h.last
  rw [start, last_iff.1 h'.last, Option.some.injEq] at last
  exact last.symm

end Fork

namespace Schedule

variable {s : Schedule} {forks forks' : List Fork} {root : Option Root} {epoch epoch' : Epoch}
  {fork fork' : Fork} {e : GossipError} {next : Epoch}

theorem selected_of_forkAt (h : (ofForks forks root).forkAt epoch = .ok fork) :
    Fork.Selected forks epoch fork := by
  obtain ⟨mem, active⟩ := forkAt_ok h
  have scheduled := (mem_forks.1 mem).2
  rw [forkAt_eq_ok, List.find?_eq_some_iff_append] at h
  obtain ⟨-, later, earlier, split, inactive⟩ := h
  have sorted := sorted_forks forks root
  rw [← (ofForks forks root).forks.reverse_reverse, split, List.reverse_append,
    List.reverse_cons, List.append_assoc, List.pairwise_append] at sorted
  refine ⟨scheduled, active, fun f hf hs ha => ?_, Fork.last_iff.2 ?_⟩
  · -- what is active does not stand behind the fork
    have hm : f ∈ (ofForks forks root).forks.reverse := List.mem_reverse.2 (mem_forks.2 ⟨hf, hs⟩)
    rw [split, List.mem_append, List.mem_cons] at hm
    obtain hm | rfl | hm := hm
    · have := inactive f hm
      simp [ha] at this
    · exact UInt64.le_refl _
    · exact sorted.2.2 f (List.mem_reverse.2 hm) fork (by simp)
  · rw [← filter_forks forks root scheduled, List.getLast?_filter, List.find?_eq_some_iff_append]
    refine ⟨decide_eq_true rfl, later, earlier, split, fun f hf => ?_⟩
    have beyond := inactive f hf
    simp only [Bool.not_eq_true', decide_eq_false_iff_not] at beyond ⊢
    intro start
    exact beyond (start ▸ active)

theorem forkAt_iff : (ofForks forks root).forkAt epoch = .ok fork ↔
    Fork.Selected forks epoch fork := by
  refine ⟨selected_of_forkAt, fun h => ?_⟩
  have mem : fork ∈ (ofForks forks root).forks := by
    obtain ⟨before, after, rfl, -⟩ := h.last
    exact mem_forks.2 ⟨List.mem_append_right _ List.mem_cons_self, h.scheduled⟩
  cases found : (ofForks forks root).forkAt epoch with
  | error e => exact ((forkAt_error found).2 fork mem h.active).elim
  | ok fork' => rw [(selected_of_forkAt found).unique h]

theorem nextForkEpoch_eq_none : s.nextForkEpoch epoch = none ↔
    ∀ f ∈ s.forks, ¬ epoch < f.epoch := by
  simp [nextForkEpoch]

theorem nextForkEpoch_iff : (ofForks forks root).nextForkEpoch epoch = some next ↔
    IsLeast {n | ∃ f ∈ forks, f.Scheduled ∧ f.epoch = n ∧ epoch < n} next := by
  have least {n : Epoch} (h : (ofForks forks root).nextForkEpoch epoch = some n) :
      IsLeast {n | ∃ f ∈ forks, f.Scheduled ∧ f.epoch = n ∧ epoch < n} n := by
    have sorted := List.pairwise_map.2 (sorted_forks forks root)
    have mem := List.mem_of_find?_eq_some h
    rw [nextForkEpoch, List.find?_eq_some_iff_append] at h
    obtain ⟨after, earlier, later, split, before⟩ := h
    obtain ⟨f, hf, rfl⟩ := List.mem_map.1 mem
    obtain ⟨hm, hs⟩ := mem_forks.1 hf
    refine ⟨⟨f, hm, hs, rfl, of_decide_eq_true after⟩, ?_⟩
    rintro _ ⟨f', hm', hs', rfl, after'⟩
    have hf' : f'.epoch ∈ (ofForks forks root).forks.map (·.epoch) :=
      List.mem_map_of_mem (mem_forks.2 ⟨hm', hs'⟩)
    rw [split, List.pairwise_append, List.pairwise_cons] at sorted
    rw [split, List.mem_append, List.mem_cons] at hf'
    obtain hf' | same | hf' := hf'
    · have := before _ hf'
      simp [after'] at this
    · exact same ▸ UInt64.le_refl _
    · exact sorted.2.1.1 _ hf'
  refine ⟨least, fun h => ?_⟩
  cases found : (ofForks forks root).nextForkEpoch epoch with
  | none =>
    obtain ⟨f, hm, hs, rfl, after⟩ := h.1
    exact (nextForkEpoch_eq_none.1 found f (mem_forks.2 ⟨hm, hs⟩) after).elim
  | some n =>
    have hn := least found
    rw [UInt64.le_antisymm (hn.2 h.1) (h.2 hn.1)]

theorem forkAt_constant (le : epoch ≤ epoch')
    (before : ∀ f ∈ s.forks, epoch < f.epoch → epoch' < f.epoch) :
    s.forkAt epoch' = .ok fork ↔ s.forkAt epoch = .ok fork := by
  have active : ∀ f ∈ s.forks.reverse, decide (f.epoch ≤ epoch') = decide (f.epoch ≤ epoch) := by
    intro f hf
    rw [decide_eq_decide]
    refine ⟨fun h => ?_, fun h => UInt64.le_trans h le⟩
    by_contra later
    have := before f (List.mem_reverse.1 hf) (UInt64.not_le.1 later)
    exact UInt64.not_le.2 this h
  rw [forkAt_eq_ok, forkAt_eq_ok, List.find?_congr active]

/-- How the answers of a schedule divide the epochs among the forks that it was made of. -/
structure Partitions (forks : List Fork) (s : Schedule) : Prop where
  selected : ∀ epoch fork, s.forkAt epoch = .ok fork ↔ Fork.Selected forks epoch fork
  unknown : ∀ epoch e, s.forkAt epoch = .error e ↔
    e = .unknownFork epoch ∧ ∀ f ∈ forks, f.Scheduled → ¬ f.epoch ≤ epoch
  next : ∀ epoch next, s.nextForkEpoch epoch = some next ↔
    IsLeast {n | ∃ f ∈ forks, f.Scheduled ∧ f.epoch = n ∧ epoch < n} next
  last : ∀ epoch, s.nextForkEpoch epoch = none ↔ ∀ f ∈ forks, f.Scheduled → ¬ epoch < f.epoch
  constant : ∀ epoch epoch' fork, epoch ≤ epoch' →
    (∀ next, s.nextForkEpoch epoch = some next → epoch' < next) →
    (s.forkAt epoch' = .ok fork ↔ s.forkAt epoch = .ok fork)
  begins : ∀ epoch next, s.nextForkEpoch epoch = some next →
    ∃ fork, s.forkAt next = .ok fork ∧ fork.epoch = next

theorem partitions_ofForks (forks : List Fork) (root : Option Root) :
    Partitions forks (ofForks forks root) := by
  refine ⟨fun epoch fork => forkAt_iff, fun epoch e => ?_, fun epoch next => nextForkEpoch_iff,
    fun epoch => ?_, fun epoch epoch' fork le before => ?_, fun epoch next h => ?_⟩
  · simp only [forkAt_eq_error, mem_forks, and_imp]
  · simp only [nextForkEpoch_eq_none, mem_forks, and_imp]
  · refine forkAt_constant le fun f hf after => ?_
    cases h : (ofForks forks root).nextForkEpoch epoch with
    | none => exact (nextForkEpoch_eq_none.1 h f hf after).elim
    | some next =>
      obtain ⟨hm, hs⟩ := mem_forks.1 hf
      exact UInt64.lt_of_lt_of_le (before next h)
        ((nextForkEpoch_iff.1 h).2 ⟨f, hm, hs, rfl, after⟩)
  · obtain ⟨f, hf, hs, rfl, -⟩ := (nextForkEpoch_iff.1 h).1
    cases found : (ofForks forks root).forkAt f.epoch with
    | error e =>
      exact ((forkAt_error found).2 f (mem_forks.2 ⟨hf, hs⟩) (UInt64.le_refl _)).elim
    | ok fork =>
      have selected := selected_of_forkAt found
      exact ⟨fork, rfl, UInt64.le_antisymm selected.active
        (selected.greatest f hf hs (UInt64.le_refl _))⟩

theorem Partitions.alike {s' : Schedule} (h : Partitions forks s) (a : s.Alike s') :
    Partitions forks s' := by
  have next (epoch : Epoch) : s'.nextForkEpoch epoch = s.nextForkEpoch epoch := by
    rw [nextForkEpoch, nextForkEpoch, a.forks]
  constructor <;> simp only [a.forkAt, next]
  exacts [h.selected, h.unknown, h.next, h.last, h.constant, h.begins]

theorem ofForks_perm (perm : forks.Perm forks') (distinct : (forks.map (·.epoch)).Nodup)
    (root : Option Root) : ofForks forks' root = ofForks forks root := by
  have sorted : (ofForks forks' root).forks = (ofForks forks root).forks := by
    refine List.Perm.eq_of_pairwise (fun f f' hf hf' le ge => ?_) (sorted_forks forks' root)
      (sorted_forks forks root) ?_
    · exact List.inj_on_of_nodup_map distinct (perm.mem_iff.2 (mem_forks.1 hf).1)
        (mem_forks.1 hf').1 (UInt64.le_antisymm le ge)
    · exact (List.mergeSort_perm _ _).trans
        ((perm.symm.filter _).trans (List.mergeSort_perm _ _).symm)
  rw [ofForks, Schedule.mk.injEq]
  exact ⟨sorted, rfl, rfl⟩

/-- Whatever the schedule has been told and asked, its forks divide the epochs; and without ties
their order in the list it was made of does not matter. -/
theorem partitions_epochs (forks : List Fork) (root : Option Root) (qs : List Query) :
    Partitions forks ((ofForks forks root).run qs) ∧
      ∀ forks', forks.Perm forks' → (forks.map (·.epoch)).Nodup →
        (ofForks forks' root).run qs = (ofForks forks root).run qs := by
  refine ⟨(partitions_ofForks forks root).alike (alike_run _ qs), fun forks' perm distinct => ?_⟩
  rw [ofForks_perm perm distinct]

/-- Two forks given the later first, and asked about before the root is known. -/
theorem partitions_epochs_later_first :
    let early : Fork := ⟨.fill 4 0, .fill 4 0, 0⟩
    let late : Fork := ⟨.fill 4 1, .fill 4 2, 74240⟩
    ((ofForks [late, early] none).run [.digestAt 5]).forkAt 74239 = .ok early ∧
      (ofForks [early, late] none).run [.digestAt 5] =
        (ofForks [late, early] none).run [.digestAt 5] := by
  intro early late
  obtain ⟨divided, permuted⟩ := partitions_epochs [late, early] none [.digestAt 5]
  refine ⟨(divided.selected _ _).2 ?_, permuted _ (.swap _ _ _) (by decide)⟩
  exact ⟨by decide, by decide, by decide, [late], [], rfl, nofun⟩

end Schedule

end BeaconGossip
