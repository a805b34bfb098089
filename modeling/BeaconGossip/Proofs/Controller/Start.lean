import BeaconGossip.Proofs.Node.Schedule

namespace BeaconGossip

namespace Node

/-- A start of the controller has succeeded. -/
def HasStarted (i : Nat) (history : List (Event × Answer)) : Prop :=
  ∃ root head, (.act i (.start root head), .result (.ok ())) ∈ history

/-- A start that was answered with an error. -/
def isFailedStart : Event × Answer → Bool
  | (.act _ (.start ..), .result (.error _)) => true
  | _ => false

/-- The events of a run without the starts that fail in it. -/
def withoutFailedStarts (node : Node) (es : List Event) : List Event :=
  ((node.history es).filter (!isFailedStart ·)).map (·.1)

theorem isFailedStart_iff {p : Event × Answer} :
    isFailedStart p = true ↔
      ∃ i root head e, p = (.act i (.start root head), .result (.error e)) := by
  constructor
  · intro h
    unfold isFailedStart at h
    split at h
    · exact ⟨_, _, _, _, rfl⟩
    · cases h
  · rintro ⟨i, root, head, e, rfl⟩
    rfl

theorem start_error {node : Node} {i : Nat} {root : Root} {head : Bool} {e : GossipError}
    (h : (node.start i root head).1 = .error e) : (node.start i root head).2 = node := by
  unfold Node.start at h ⊢
  split
  · split
    · rfl
    · rename_i hc _ _ _ _ hs
      simp only [hc, hs] at h
      cases h
  · rfl

theorem after_failedStart {node : Node} {e : Event}
    (failed : isFailedStart (e, (node.step e).1) = true) : node.after e = node := by
  obtain ⟨i, root, head, error, h⟩ := isFailedStart_iff.1 failed
  obtain ⟨rfl, h⟩ := Prod.mk.inj h
  exact start_error (Answer.result.inj h)

theorem run_withoutFailedStarts (node : Node) (es : List Event) :
    node.run (node.withoutFailedStarts es) = node.run es ∧
      node.history (node.withoutFailedStarts es) =
        (node.history es).filter (!isFailedStart ·) := by
  induction es generalizing node with
  | nil => exact ⟨rfl, rfl⟩
  | cons e es ih =>
    cases failed : isFailedStart (e, (node.step e).1) with
    | true =>
      have same : node.after e = node := after_failedStart failed
      have hn : node.withoutFailedStarts (e :: es) = node.withoutFailedStarts es := by
        rw [withoutFailedStarts, history, List.filter_cons_of_neg (by simp [failed]), same]
        rfl
      rw [hn, history, List.filter_cons_of_neg (by simp [failed]), same]
      refine ⟨(ih node).1.trans ?_, (ih node).2⟩
      rw [run, run, List.foldl_cons, same]
    | false =>
      have hn : node.withoutFailedStarts (e :: es) =
          e :: (node.after e).withoutFailedStarts es := by
        rw [withoutFailedStarts, history, List.filter_cons_of_pos (by simp [failed])]
        rfl
      rw [hn, history, history, List.filter_cons_of_pos (by simp [failed])]
      exact ⟨(ih (node.after e)).1, congrArg _ (ih (node.after e)).2⟩

end Node

namespace Controller

open Node (Event Answer Act HasStarted)

section Operation

variable {c c' : Controller} {s s' : Schedule} {r r' : Registry} {root : Root} {head : Bool}

theorem start_error_iff {e : GossipError} :
    c.start root head s r = .error e ↔ c.managers = none ∧ s.Lacks c.fork.epoch e := by
  cases hm : c.managers with
  | some m =>
    rw [start_started hm]
    exact iff_of_false (by rintro ⟨⟩) fun h => Option.some_ne_none m h.1
  | none =>
    rw [start_unstarted hm, ← Schedule.digestAt_error_iff]
    generalize s.digestAt c.fork.epoch = p
    obtain ⟨d, s'⟩ := p
    cases d with
    | error e' => simp
    | ok d => simp

/-- The first start that succeeds takes over the root that it is given, and the digest of the
schedule. -/
theorem start_ok (hm : c.managers = none) (h : c.start root head s r = .ok (c', s', r')) :
    c'.fork = c.fork ∧ ∃ digest, (s.digestAt c.fork.epoch).1 = .ok digest ∧
      c'.identity = some (⟨c.fork, root⟩, digest) := by
  rw [start_unstarted hm] at h
  generalize s.digestAt c.fork.epoch = p at *
  obtain ⟨d, s₁⟩ := p
  cases d with
  | error e => cases h
  | ok digest =>
    simp only [Except.ok.injEq, Prod.mk.injEq] at h
    obtain ⟨rfl, rfl, rfl⟩ := h
    have fixed := (c.built root digest).handOver_subscribe_fixed
      (r.touch (SubnetSet.fresh c.settings digest).gauge) head
    exact ⟨fixed.fork, digest, rfl, fixed.identity⟩

end Operation

section Runs

variable {node : Node} {i : Nat} {c : Controller} {fork : Fork} {root : Root} {head : Bool}

theorem perform_start_error_iff (hc : node.objects[i]? = some (.controller c)) {e : GossipError} :
    (node.perform i (.start root head)).1 = .result (.error e) ↔
      c.managers = none ∧ node.schedule.Lacks c.fork.epoch e := by
  have failed : c.start root head node.schedule node.hub.registry = .error e ↔ _ := start_error_iff
  rw [← failed]
  simp only [Node.perform, Node.start, hc]
  cases c.start root head node.schedule node.hub.registry <;> simp

theorem perform_start_ok (hc : node.objects[i]? = some (.controller c)) (hm : c.managers = none)
    (ok : (node.perform i (.start root head)).1 = .result (.ok ())) :
    ∃ c' digest, (node.after (.act i (.start root head))).objects[i]? = some (.controller c') ∧
      c'.fork = c.fork ∧ (node.schedule.digestAt c.fork.epoch).1 = .ok digest ∧
      c'.identity = some (⟨c.fork, root⟩, digest) := by
  have hc' : (node.after (.act i (.start root head))).objects[i]? = _ :=
    objects_perform hc (.start root head)
  simp only [Node.perform, Node.start, hc] at ok
  rw [performed] at hc'
  cases hs : c.start root head node.schedule node.hub.registry with
  | error e =>
    simp only [hs] at ok
    cases ok
  | ok p =>
    rw [hs] at hc'
    obtain ⟨hf, digest, hd, hi⟩ := start_ok hm hs
    exact ⟨p.1, digest, hc', hf, hd, hi⟩

/-- The node has the controller of the fork, whose managers exist if it has started. -/
def StartsWith (fork : Fork) (history : List (Event × Answer)) (node : Node) (i : Nat) : Prop :=
  ∃ c, node.objects[i]? = some (.controller c) ∧ c.fork = fork ∧
    (c.managers = none ↔ ¬ HasStarted i history)

theorem hasStarted_append {history : List (Event × Answer)} {p : Event × Answer} :
    HasStarted i (history ++ [p]) ↔
      HasStarted i history ∨ ∃ root head, p = (.act i (.start root head), .result (.ok ())) := by
  simp only [HasStarted, List.mem_append, List.mem_singleton, exists_or]
  exact or_congr_right ⟨fun ⟨root, head, h⟩ => ⟨root, head, h.symm⟩,
    fun ⟨root, head, h⟩ => ⟨root, head, h.symm⟩⟩

theorem StartsWith.unchanged {history : List (Event × Answer)} {c' : Controller} {e : Event}
    (hc : (node.after e).objects[i]? = some (.controller c')) (hf : c.fork = fork)
    (hm : c.managers = none ↔ ¬ HasStarted i history) (fixed : c.Fixed c')
    (other : c.managers = none →
      ∀ root head, (e, (node.step e).1) ≠ (.act i (.start root head), .result (.ok ()))) :
    StartsWith fork (history ++ [(e, (node.step e).1)]) (node.after e) i := by
  refine ⟨c', hc, fixed.fork.trans hf, ?_⟩
  rw [← identity_eq_none_iff, fixed.identity, identity_eq_none_iff, hasStarted_append, not_or, hm]
  refine (and_iff_left_of_imp fun h => ?_).symm
  rintro ⟨root, head, he⟩
  exact other (hm.2 h) root head he

theorem StartsWith.after {history : List (Event × Answer)} (h : StartsWith fork history node i)
    (e : Event) : StartsWith fork (history ++ [(e, (node.step e).1)]) (node.after e) i := by
  obtain ⟨c, hc, hf, hm⟩ := h
  cases hs : c.managers with
  | some m =>
    obtain ⟨c', hc', fixed⟩ := fixed_after hc hs e
    exact .unchanged hc' hf hm fixed fun hn => by
      rw [hs] at hn
      cases hn
  | none =>
    by_cases he : ∃ act, e = .act i act
    · obtain ⟨act, rfl⟩ := he
      by_cases ha : ∃ root head, act = .start root head
      · obtain ⟨root, head, rfl⟩ := ha
        cases hr : c.start root head node.schedule node.hub.registry with
        | error e =>
          have answer : (node.perform i (.start root head)).1 = .result (.error e) :=
            (perform_start_error_iff hc).2 (start_error_iff.1 hr)
          have hc' := objects_perform hc (.start root head)
          rw [performed, hr] at hc'
          refine .unchanged hc' hf hm (.refl c) fun _ root' head' he => ?_
          have he' := congrArg (·.2) he
          rw [Node.step] at he'
          simp only [answer, Answer.result.injEq, reduceCtorEq] at he'
        | ok p =>
          have answer : (node.perform i (.start root head)).1 = .result (.ok ()) := by
            simp only [Node.perform, Node.start, hc, hr]
          obtain ⟨c', digest, hc', hf', _, hi⟩ := perform_start_ok hc hs answer
          refine ⟨c', hc', hf'.trans hf, ?_⟩
          rw [← identity_eq_none_iff, hi]
          refine iff_of_false (Option.some_ne_none _) (not_not_intro ?_)
          refine hasStarted_append.2 (.inr ⟨root, head, ?_⟩)
          rw [Node.step, answer]
      · refine .unchanged (objects_perform hc act) hf hm
          (performed_fixed fun root head h => ha ⟨root, head, h⟩) fun _ root head he => ?_
        have he' := congrArg (·.1) he
        simp only [Event.act.injEq, true_and] at he'
        exact ha ⟨root, head, he'⟩
    · have hne : ∀ act, e ≠ .act i act := fun act h => he ⟨act, h⟩
      obtain ⟨c', hc', turned⟩ := turned_after hc hne
      refine .unchanged hc' hf hm turned.fixed fun _ root head he' => ?_
      exact hne _ (congrArg (·.1) he')

theorem StartsWith.run (h : StartsWith fork [] node i) (es : List Event) :
    StartsWith fork (node.history es) (node.run es) i := by
  induction es using List.reverseRecOn with
  | nil => exact h
  | append_singleton es e ih =>
    rw [Node.run_append, Node.history_append]
    exact ih.after e

theorem startsWith_added (before : Node) (fork : Fork) (settings : Settings) :
    StartsWith fork [] (before.after (.addController fork settings)) before.objects.length := by
  refine ⟨.ofFork fork settings, (Node.objects_add ..).trans (if_pos rfl), rfl, iff_of_true rfl ?_⟩
  rintro ⟨root, head, h⟩
  cases h

end Runs

/-- What holds of the starts of a new controller in each of its runs. -/
structure StartsOnce (base : Node) (fork : Fork) (settings : Settings) (es : List Event) :
    Prop where
  /-- A start fails only while none has succeeded, for want of a fork or of the genesis root. -/
  fails_iff : ∀ root head e,
    ((base.runController fork settings es).perform base.objects.length (.start root head)).1 =
        .result (.error e) ↔
      ¬ HasStarted base.objects.length
          ((base.after (.addController fork settings)).history es) ∧
        (base.runController fork settings es).schedule.Lacks fork.epoch e
  /-- Without the starts that fail, everything else is answered as before, and the node ends up the
  same. -/
  failures : ∀ es', es' = (base.after (.addController fork settings)).withoutFailedStarts es →
    base.runController fork settings es' = base.runController fork settings es ∧
      (base.after (.addController fork settings)).history es' =
        ((base.after (.addController fork settings)).history es).filter (!Node.isFailedStart ·)
  /-- The first start that succeeds settles the fork information and the digest. -/
  first : ∀ root head,
    ¬ HasStarted base.objects.length ((base.after (.addController fork settings)).history es) →
    ((base.runController fork settings es).perform base.objects.length (.start root head)).1 =
      .result (.ok ()) →
    ∃ c digest,
      (base.runController fork settings
          (es ++ [.act base.objects.length (.start root head)])).objects[base.objects.length]? =
        some (.controller c) ∧
      ((base.runController fork settings es).schedule.digestAt fork.epoch).1 = .ok digest ∧
      c.info = some ⟨fork, root⟩ ∧ c.digest = some digest
  /-- They stay what they are. -/
  fixed : HasStarted base.objects.length
      ((base.after (.addController fork settings)).history es) →
    ∃ c, (base.runController fork settings es).objects[base.objects.length]? =
        some (.controller c) ∧ c.isStarted ∧
      ∀ rest, ∃ c', (base.runController fork settings (es ++ rest)).objects[base.objects.length]? =
        some (.controller c') ∧ c'.info = c.info ∧ c'.digest = c.digest
  /-- The roots given to later starts and genesis roots set later change no answer, and nothing of
  the node besides its schedule. -/
  heedless : HasStarted base.objects.length
      ((base.after (.addController fork settings)).history es) →
    ∀ rest rest', Node.Rerooted base.objects.length
        (base.runController fork settings es).schedule.genesisRoot
        (base.runController fork settings es).schedule.genesisRoot rest rest' →
      (base.runController fork settings es).answers rest' =
          (base.runController fork settings es).answers rest ∧
        ((base.runController fork settings es).run rest).Alike
          ((base.runController fork settings es).run rest')

theorem starts_once (base : Node) (fork : Fork) (settings : Settings) (es : List Event) :
    StartsOnce base fork settings es := by
  obtain ⟨c, hc, rfl, hm⟩ := (startsWith_added base fork settings).run es
  have managers : HasStarted base.objects.length
      ((base.after (.addController c.fork settings)).history es) →
      ∃ m, c.managers = some m := by
    intro h
    exact Option.ne_none_iff_exists'.1 fun hn => hm.1 hn h
  refine ⟨?_, ?_, ?_, ?_, ?_⟩
  · intro root head e
    rw [← hm]
    exact perform_start_error_iff hc
  · rintro es' rfl
    exact Node.run_withoutFailedStarts _ es
  · intro root head unstarted ok
    obtain ⟨c', digest, hc', _, hd, hi⟩ := perform_start_ok hc (hm.2 unstarted) ok
    refine ⟨c', digest, ?_, hd, ?_, ?_⟩
    · rw [Node.runController, Node.run_append]
      exact hc'
    · rw [info_eq, hi, Option.map_some]
    · rw [digest_eq, hi, Option.map_some]
  · intro started
    obtain ⟨m, hm'⟩ := managers started
    refine ⟨c, hc, by rw [isStarted, hm', Option.isSome_some], fun rest => ?_⟩
    obtain ⟨c', hc', fixed⟩ := fixed_run hc hm' rest
    refine ⟨c', ?_, ?_, fixed.digest⟩
    · rw [Node.runController, Node.run, List.foldl_append]
      exact hc'
    · rw [info_eq, info_eq, fixed.identity]
  · intro started rest rest' rerooted
    obtain ⟨m, hm'⟩ := managers started
    exact rerooted.run (.refl _) ⟨c, m, hc, hm'⟩ rfl rfl

/-- A start before the genesis root is known, and another with a wrong root after the root has been
set to a wrong one. -/
theorem starts_once_after_failure :
    let base := Node.fresh .standard (.genesis none)
    let es : List Event := [.act 0 (.requestSubnet 3), .act 0 (.start .zero false),
      .setGenesisRoot .zero, .act 0 (.start .zero false), .runTasks]
    let node := base.runController .genesis .standard es
    let rest : List Event := [.act 0 .stop, .runTasks, .act 0 (.start .zero true), .runTasks]
    let rest' : List Event := [.setGenesisRoot (.fill 32 1), .act 0 .stop, .runTasks,
      .act 0 (.start (.fill 32 2) true), .runTasks]
    let es' := (base.after (.addController .genesis .standard)).withoutFailedStarts es
    es'.length = 4 ∧ base.runController .genesis .standard es' = node ∧
      node.answers rest' = node.answers rest ∧ (node.run rest).Alike (node.run rest') := by
  intro base es node rest rest' es'
  have once := starts_once base .genesis .standard es
  have started : HasStarted 0 ((base.after (.addController .genesis .standard)).history es) := by
    by_contra unstarted
    obtain ⟨c, hc, _, hm⟩ := (startsWith_added base .genesis .standard).run es
    have built : (node.objects[0]?.bind (·.controller?)).any (·.isStarted) = true := by
      decide +kernel
    rw [show node.objects[0]? = some (.controller c) from hc] at built
    simp only [Option.bind_some, GossipObject.controller?, Option.any_some, isStarted,
      hm.2 unstarted] at built
    cases built
  have rerooted : Node.Rerooted 0 node.schedule.genesisRoot node.schedule.genesisRoot rest rest' :=
    .set' _ (.same rfl rfl (.same rfl rfl (.start _ _ _ (.same rfl rfl .nil))))
  obtain ⟨answers, run⟩ := once.heedless started rest rest' rerooted
  exact ⟨by decide +kernel, (once.failures es' rfl).1, answers, run⟩

end Controller

end BeaconGossip
