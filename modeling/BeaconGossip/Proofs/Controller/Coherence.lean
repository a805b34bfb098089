import BeaconGossip.Proofs.Controller.Convergence
import BeaconGossip.Proofs.Controller.Start
import BeaconGossip.Proofs.Node.Perform
import BeaconGossip.Proofs.Schedule.Selection

namespace BeaconGossip

theorem Fork.Selected.own {forks : List Fork} {epoch : Epoch} {fork : Fork}
    (h : Selected forks epoch fork) : Selected forks fork.epoch fork :=
  ⟨h.scheduled, UInt64.le_refl _, fun _ _ _ le => le, h.last⟩

namespace Node

open Controller (StartsWith)

variable {node : Node} {i : Nat} {es : List Event}

theorem exists_first_start (h : HasStarted i (node.history es)) :
    ∃ es₁ root head es₂, es = es₁ ++ .act i (.start root head) :: es₂ ∧
      ¬ HasStarted i (node.history es₁) ∧
      ((node.run es₁).perform i (.start root head)).1 = .result (.ok ()) := by
  induction es using List.reverseRecOn with
  | nil =>
    obtain ⟨root, head, h⟩ := h
    cases h
  | append_singleton es e ih =>
    by_cases before : HasStarted i (node.history es)
    · obtain ⟨es₁, root, head, es₂, rfl, first⟩ := ih before
      exact ⟨es₁, root, head, es₂ ++ [e], by simp, first⟩
    · rw [history_append, Controller.hasStarted_append] at h
      obtain ⟨root, head, he⟩ := h.resolve_left before
      obtain ⟨rfl, answer⟩ := Prod.mk.inj he
      exact ⟨es, root, head, [], rfl, before, answer⟩

end Node

namespace Controller

open Node (Event HasStarted)

/-- The fork information of a started controller has the root that was given; its digest, by which
all its topics are named, is that of the root that was held. -/
structure Coherent (c : Controller) (fork : Fork) (settings : Settings) (given held : Root) :
    Prop where
  info : c.info = some ⟨fork, given⟩
  digest : c.digest = some (.compute fork.currentVersion held)
  topics : ∀ lane d, (GossipObject.controller c).channel? lane = some d →
    ∃ kind : TopicKind, lane = kind.lane ∧
      d.topic = (settings.namer (.compute fork.currentVersion held)).topic kind
  agreed : given = held → ∀ info, c.info = some info →
    c.digest = some (.compute info.fork.currentVersion info.genesisRoot)

section Runs

variable {base : Node} {fork : Fork} {settings : Settings} {es : List Event} {c : Controller}
  {s : Schedule} {forks : List Fork} {initial : Option Root} {epoch : Epoch}

theorem digestAt_returned (alike : (Schedule.ofForks forks initial).Alike s)
    (returned : s.forkAt epoch = .ok fork) {digest : ForkDigest}
    (h : (s.digestAt fork.epoch).1 = .ok digest) :
    ∃ held, s.genesisRoot = some held ∧ digest = .compute fork.currentVersion held := by
  have divided := (Schedule.partitions_ofForks forks initial).alike alike
  have active := (divided.selected _ _).2 ((divided.selected _ _).1 returned).own
  cases hr : s.genesisRoot with
  | none =>
    rw [Schedule.digestAt_fst, active, hr] at h
    cases h
  | some held =>
    rw [((Schedule.sound_ofForks forks initial).alike alike).digestAt_ok active hr,
      Except.ok.injEq] at h
    exact ⟨held, rfl, h.symm⟩

theorem topics_named {digest : ForkDigest}
    (hc : (base.runController fork settings es).objects[base.objects.length]? =
      some (.controller c))
    (hd : c.digest = some digest) {lane : Lane} {d : Channel}
    (h : (GossipObject.controller c).channel? lane = some d) :
    ∃ kind : TopicKind, lane = kind.lane ∧ d.topic = (settings.namer digest).topic kind := by
  obtain ⟨c', hc', tracks⟩ := (tracksIn_added base fork settings).run es
  obtain rfl : c' = c := GossipObject.controller.inj (Option.some.inj (hc'.symm.trans hc))
  obtain ⟨m, hm, rfl⟩ := Option.map_eq_some_iff.1 hd
  rw [GossipObject.channel?_started hm] at h
  exact (tracks.started m hm).2.lane_topic h

/-- A started controller is what its first successful start made it. -/
theorem exists_identity
    (hc : (base.runController fork settings es).objects[base.objects.length]? =
      some (.controller c))
    (started : c.isStarted) :
    ∃ es₁ given head es₂ digest,
      es = es₁ ++ .act base.objects.length (.start given head) :: es₂ ∧
      ¬ HasStarted base.objects.length
        ((base.after (.addController fork settings)).history es₁) ∧
      ((base.runController fork settings es₁).perform base.objects.length
        (.start given head)).1 = .result (.ok ()) ∧
      ((base.runController fork settings es₁).schedule.digestAt fork.epoch).1 = .ok digest ∧
      c.identity = some (⟨fork, given⟩, digest) := by
  obtain ⟨m, hm⟩ := Option.isSome_iff_exists.1 started
  have hasStarted : HasStarted base.objects.length
      ((base.after (.addController fork settings)).history es) := by
    obtain ⟨c', hc', -, unstarted⟩ := (startsWith_added base fork settings).run es
    obtain rfl : c' = c := GossipObject.controller.inj (Option.some.inj (hc'.symm.trans hc))
    by_contra h
    exact Option.some_ne_none m (hm.symm.trans (unstarted.2 h))
  obtain ⟨es₁, given, head, es₂, rfl, first, ok⟩ := Node.exists_first_start hasStarted
  obtain ⟨c₁, hc₁, rfl, unstarted⟩ := (startsWith_added base fork settings).run es₁
  obtain ⟨c₂, digest, hc₂, -, named, identity⟩ := perform_start_ok hc₁ (unstarted.2 first) ok
  obtain ⟨m₂, hm₂, -⟩ := Option.map_eq_some_iff.1 identity
  obtain ⟨c₃, hc₃, fixed⟩ := fixed_run hc₂ hm₂ es₂
  rw [Node.runController, Node.run, List.foldl_append, List.foldl_cons] at hc
  obtain rfl : c₃ = c := GossipObject.controller.inj (Option.some.inj (hc₃.symm.trans hc))
  exact ⟨es₁, given, head, es₂, digest, rfl, first, ok, named, fixed.identity.trans identity⟩

/-- A controller made for a fork that the schedule returns, at any moment at which it is started. -/
theorem coherent (settings₀ : Settings) (before : List Event)
    (base_eq : base = (Node.fresh settings₀ (.ofForks forks initial)).run before)
    (returned : base.schedule.forkAt epoch = .ok fork)
    (hc : (base.runController fork settings es).objects[base.objects.length]? =
      some (.controller c))
    (started : c.isStarted) :
    ∃ es₁ given head es₂ held,
      es = es₁ ++ .act base.objects.length (.start given head) :: es₂ ∧
      ¬ HasStarted base.objects.length
        ((base.after (.addController fork settings)).history es₁) ∧
      ((base.runController fork settings es₁).perform base.objects.length
        (.start given head)).1 = .result (.ok ()) ∧
      (base.runController fork settings es₁).schedule.genesisRoot = some held ∧
      c.Coherent fork settings given held := by
  obtain ⟨es₁, given, head, es₂, digest, rfl, first, ok, named, identity⟩ :=
    exists_identity hc started
  have made : (Schedule.ofForks forks initial).Alike base.schedule := by
    rw [base_eq]
    exact Node.schedule_alike_run (.fresh settings₀ (.ofForks forks initial)) before
  have since : base.schedule.Alike (base.runController fork settings es₁).schedule :=
    (base.schedule_alike_after _).trans (Node.schedule_alike_run _ es₁)
  obtain ⟨held, hr, rfl⟩ :=
    digestAt_returned (made.trans since) ((since.forkAt epoch).trans returned) named
  have info : c.info = some ⟨fork, given⟩ := by rw [info_eq, identity, Option.map_some]
  have digest : c.digest = some (.compute fork.currentVersion held) := by
    rw [digest_eq, identity, Option.map_some]
  refine ⟨es₁, given, head, es₂, held, rfl, first, ok, hr, info, digest,
    fun lane d hd => topics_named hc digest hd, ?_⟩
  rintro rfl info' h
  obtain rfl := Option.some.inj (info.symm.trans h)
  exact digest

/-- Started with the root that was set before, and again with another one. -/
theorem coherent_restarted :
    let fork : Fork := ⟨.fill 4 0, .fill 4 1, 5⟩
    let undecided : Fork := ⟨.fill 4 1, .fill 4 2, Fork.unscheduledEpoch⟩
    let base := (Node.fresh .standard (.ofForks [undecided, fork] none)).run
      [.setGenesisRoot (.fill 32 1)]
    let es : List Event := [.act 0 (.start (.fill 32 1) false), .setGenesisRoot (.fill 32 2),
      .act 0 (.start (.fill 32 2) true)]
    let c := ((base.runController fork .standard es).objects[0]?.bind (·.controller?)).getD
      (.ofFork fork .standard)
    c.isStarted ∧ ∃ given held, c.Coherent fork .standard given held := by
  intro fork undecided base es c
  have returned : base.schedule.forkAt 9 = .ok fork := by decide +kernel
  have hc : (base.runController fork .standard es).objects[base.objects.length]? =
      some (.controller c) := by decide +kernel
  have started : c.isStarted := by decide +kernel
  obtain ⟨_, given, _, _, held, _, _, _, _, told⟩ :=
    coherent .standard [.setGenesisRoot (.fill 32 1)] rfl returned hc started
  exact ⟨started, given, held, told⟩

/-- A start with another root than the schedule's is taken as it is. -/
theorem incoherent_start :
    let base := Node.fresh .standard (.ofForks [.genesis] (some .zero))
    let node := base.runController .genesis .standard [.act 0 (.start (.fill 32 1) false)]
    base.schedule.forkAt 0 = .ok .genesis ∧
      ∃ c, node.objects[0]? = some (.controller c) ∧ c.isStarted ∧
        ∃ info, c.info = some info ∧
          c.digest ≠ some (.compute info.fork.currentVersion info.genesisRoot) := by
  intro base node
  let c := node.controllerAt 0
  exact ⟨by decide +kernel, c, by decide +kernel, by decide +kernel, ⟨.genesis, .fill 32 1⟩,
    by decide +kernel, by decide +kernel⟩

end Runs

end Controller

end BeaconGossip
