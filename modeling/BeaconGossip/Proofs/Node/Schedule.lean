import BeaconGossip.Proofs.Controller.Identity
import BeaconGossip.Proofs.Node.Perform
import BeaconGossip.Proofs.Schedule

namespace BeaconGossip

namespace Node

def withSchedule (node : Node) (s : Schedule) : Node := { node with schedule := s }

/-- The nodes are the same but for the genesis root and the digests that have been computed. -/
structure Alike (node node' : Node) : Prop where
  same : node' = node.withSchedule node'.schedule
  schedule : node.schedule.Alike node'.schedule

/-- The object is a controller whose managers have been built. -/
def Started (node : Node) (i : Nat) : Prop :=
  ∃ c m, node.objects[i]? = some (.controller c) ∧ c.managers = some m

def Event.isStart : Event → Bool
  | .act _ (.start ..) => true
  | _ => false

def Event.setsRoot : Event → Bool
  | .setGenesisRoot _ => true
  | _ => false

section Plain

variable (node : Node) (s : Schedule)

theorem poll_withSchedule (a : Address) :
    (node.withSchedule s).poll a = (node.poll a).withSchedule s := by
  unfold poll
  have hc : (node.withSchedule s).channel? a = node.channel? a := rfl
  rw [hc]
  cases node.channel? a <;> rfl

theorem sweep_withSchedule (addresses : List Address) :
    (node.withSchedule s).sweep addresses =
      ((node.sweep addresses).1.withSchedule s, (node.sweep addresses).2) := by
  induction addresses generalizing node with
  | nil => rfl
  | cons a rest ih =>
    simp only [sweep, poll_withSchedule, ih]
    rfl

theorem runTasks_withSchedule :
    (node.withSchedule s).runTasks = node.runTasks.withSchedule s := by
  have ht : (node.withSchedule s).tasks = node.tasks := rfl
  simp only [runTasks, ht, sweep_withSchedule]
  rfl

theorem perform_withSchedule (i : Nat) {act : Act} (other : (Event.act i act).isStart = false) :
    (node.withSchedule s).perform i act =
      ((node.perform i act).1, (node.perform i act).2.withSchedule s) := by
  have ho : (node.withSchedule s).objects = node.objects := rfl
  have ha : (node.withSchedule s).attestations = node.attestations := rfl
  have hh : (node.withSchedule s).hub = node.hub := rfl
  cases act with
  | start => cases other
  | requestSubnet index =>
    simp only [perform, Node.requestSubnet, ho, hh]
    rcases node.objects[i]? with _ | (c | m | x | c)
    case some.controller =>
      cases hs : c.requestSubnet index node.hub.registry with
      | error e => simp only [hs]
      | ok p =>
        simp only [hs]
        rfl
    all_goals rfl
  | releaseSubnet index =>
    simp only [perform, Node.releaseSubnet, ho, hh]
    rcases node.objects[i]? with _ | (c | m | x | c)
    case some.controller =>
      cases hs : c.releaseSubnet index node.hub.registry with
      | error e => simp only [hs]
      | ok p =>
        simp only [hs]
        rfl
    all_goals rfl
  | publishAttestation a =>
    simp only [perform, Node.publishAttestation, ho, ha, hh]
    rcases node.objects[i]? with _ | (c | m | x | c) <;> cases node.attestations[a]? <;> rfl
  | gossip a =>
    simp only [perform, Node.gossip, ho, ha, hh]
    rcases node.objects[i]? with _ | (c | m | x | c) <;> cases node.attestations[a]? <;> rfl
  | stop =>
    simp only [perform, Node.stop, ho]
    rcases node.objects[i]? with _ | (c | m | x | c) <;> rfl
  | stopOptimistic =>
    simp only [perform, Node.stopOptimistic, ho]
    rcases node.objects[i]? with _ | (c | m | x | c) <;> rfl
  | subscribe =>
    simp only [perform, Node.subscribe, ho]
    rcases node.objects[i]? with _ | (c | m | x | c) <;> rfl
  | unsubscribe =>
    simp only [perform, Node.unsubscribe, ho]
    rcases node.objects[i]? with _ | (c | m | x | c) <;> rfl
  | publish message =>
    simp only [perform, Node.publish, ho, hh]
    rcases node.objects[i]? with _ | (c | m | x | c) <;> rfl
  | publishPayload payload =>
    simp only [perform, Node.publishPayload, ho, hh]
    rcases node.objects[i]? with _ | (c | m | x | c) <;> rfl

theorem step_withSchedule {e : Event} (start : e.isStart = false) (sets : e.setsRoot = false) :
    (node.withSchedule s).step e = ((node.step e).1, (node.step e).2.withSchedule s) := by
  cases e with
  | act i act => exact perform_withSchedule node s i start
  | setGenesisRoot => cases sets
  | mark a =>
    have ha : (node.withSchedule s).attestations = node.attestations := rfl
    simp only [step, Node.mark, ha]
    cases node.attestations[a]? <;> rfl
  | turn a =>
    simp only [step, poll_withSchedule]
  | runTasks =>
    simp only [step, runTasks_withSchedule]
  | _ => rfl

theorem schedule_after {e : Event} (start : e.isStart = false) (sets : e.setsRoot = false) :
    (node.after e).schedule = node.schedule :=
  congrArg (·.2.schedule) (step_withSchedule node node.schedule start sets)

end Plain

/-- The forks of the schedule and the digests that it names stay, whatever is started. -/
theorem scheduled_alike (o : GossipObject) (s : Schedule) :
    s.Alike (o.scheduled s) ∧ (o.scheduled s).genesisRoot = s.genesisRoot := by
  cases o with
  | controller c =>
    have digest := s.digestAt_snd c.fork.epoch
    rw [GossipObject.scheduled]
    split
    case h_1 h => rwa [h] at digest
    case h_2 => exact ⟨.refl s, rfl⟩
  | _ => exact ⟨.refl s, rfl⟩

theorem schedule_perform (node : Node) (i : Nat) (act : Act) :
    node.schedule.Alike (node.perform i act).2.schedule ∧
      (node.perform i act).2.schedule.genesisRoot = node.schedule.genesisRoot := by
  cases start : (Event.act i act).isStart with
  | false =>
    have plain : (node.perform i act).2.schedule = node.schedule := schedule_after node start rfl
    rw [plain]
    exact ⟨.refl _, rfl⟩
  | true =>
    cases act with
    | start root head =>
      rw [perform, start_schedule]
      cases node.objects[i]? with
      | none => exact ⟨.refl _, rfl⟩
      | some o => exact scheduled_alike o node.schedule
    | _ => cases start

theorem schedule_alike_after (node : Node) (e : Event) :
    node.schedule.Alike (node.after e).schedule := by
  cases e with
  | act i act => exact (node.schedule_perform i act).1
  | setGenesisRoot root => exact node.schedule.alike_setGenesisRoot root
  | _ =>
    rw [schedule_after node rfl rfl]
    exact .refl _

theorem schedule_alike_run (node : Node) (es : List Event) :
    node.schedule.Alike (node.run es).schedule := by
  induction es generalizing node with
  | nil => exact .refl _
  | cons e es ih => exact (node.schedule_alike_after e).trans (ih _)

end Node

/-- A start comes out the same whatever root it is given and whatever the schedule says, if the
managers exist; else it goes by the root and the digest. -/
theorem Controller.start_alike {c : Controller} {s s' : Schedule} (h : s.Alike s')
    {root root' : Root}
    (informed : c.managers.isSome ∨ root' = root ∧ s'.genesisRoot = s.genesisRoot) (head : Bool)
    (r : Registry) :
    (∃ e, c.start root head s r = .error e ∧ c.start root' head s' r = .error e) ∨
      ∃ c₁ r₁ s₁ s₁', c.start root head s r = .ok (c₁, s₁, r₁) ∧
        c.start root' head s' r = .ok (c₁, s₁', r₁) ∧ s₁.Alike s₁' ∧
        s₁.genesisRoot = s.genesisRoot ∧ s₁'.genesisRoot = s'.genesisRoot := by
  cases hm : c.managers with
  | some m =>
    rw [start_started hm, start_started hm]
    exact .inr ⟨_, _, s, s', rfl, rfl, h, rfl, rfl⟩
  | none =>
    rw [hm] at informed
    obtain ⟨rfl, root⟩ := informed.resolve_left Bool.false_ne_true
    have digest := h.digestAt root c.fork.epoch
    obtain ⟨alike, same⟩ := s.digestAt_snd c.fork.epoch
    obtain ⟨alike', same'⟩ := s'.digestAt_snd c.fork.epoch
    rw [start_unstarted hm, start_unstarted hm]
    generalize s.digestAt c.fork.epoch = p at *
    generalize s'.digestAt c.fork.epoch = p' at *
    obtain ⟨d, s₁⟩ := p
    obtain ⟨d', s₁'⟩ := p'
    simp only at digest alike same alike' same'
    subst digest
    cases d' with
    | error e => exact .inl ⟨e, rfl, rfl⟩
    | ok d => exact .inr ⟨_, _, s₁, s₁', rfl, rfl, (alike.symm.trans h).trans alike', same, same'⟩

namespace Node

variable {node node' : Node} {i : Nat}

theorem Alike.refl (node : Node) : node.Alike node := ⟨rfl, .refl _⟩

/-- Only the genesis root of a node can be told by a start, and only if the managers are still to be
built. -/
theorem Alike.start (h : node.Alike node') (root root' : Root)
    (informed : node.Started i ∨
      root' = root ∧ node'.schedule.genesisRoot = node.schedule.genesisRoot) (head : Bool) :
    (node'.start i root' head).1 = (node.start i root head).1 ∧
      (node.start i root head).2.Alike (node'.start i root' head).2 ∧
      (node.start i root head).2.schedule.genesisRoot = node.schedule.genesisRoot ∧
      (node'.start i root' head).2.schedule.genesisRoot = node'.schedule.genesisRoot := by
  have ho : node'.objects = node.objects := by rw [h.same]; rfl
  have hh : node'.hub = node.hub := by rw [h.same]; rfl
  simp only [Node.start, ho, hh]
  cases hc : node.objects[i]? with
  | none => exact ⟨rfl, h, rfl, rfl⟩
  | some o =>
    cases o with
    | controller c =>
      have informed' : c.managers.isSome ∨
          root' = root ∧ node'.schedule.genesisRoot = node.schedule.genesisRoot := by
        refine informed.imp_left ?_
        rintro ⟨c', m, hc', hm⟩
        rw [hc, Option.some.injEq, GossipObject.controller.injEq] at hc'
        rw [hc', hm]
        rfl
      obtain ⟨e, hs, hs'⟩ | ⟨c₁, r₁, s₁, s₁', hs, hs', alike, same, same'⟩ :=
        Controller.start_alike h.schedule informed' head node.hub.registry
      · simp only [hs, hs', h, and_self]
      · simp only [hs, hs', true_and]
        refine ⟨⟨?_, alike⟩, same, same'⟩
        rw [h.same]
        rfl
    | _ => exact ⟨rfl, h, rfl, rfl⟩

theorem Alike.plain (h : node.Alike node') {e : Event} (start : e.isStart = false)
    (sets : e.setsRoot = false) :
    (node'.step e).1 = (node.step e).1 ∧ (node.after e).Alike (node'.after e) := by
  have hs : (node'.after e).schedule = node'.schedule := schedule_after node' start sets
  have hstep := step_withSchedule node node'.schedule start sets
  rw [← h.same] at hstep
  refine ⟨congrArg (·.1) hstep, ?_, ?_⟩
  · rw [hs]
    exact congrArg (·.2) hstep
  · rw [hs, schedule_after node start sets]
    exact h.schedule

/-- Two ways for a run to go on: the starts of the controller may give other roots, and the genesis
root may be set at other times, but not so that the start of any other controller finds another one.
The genesis roots are those of the two nodes. -/
inductive Rerooted (i : Nat) : (found found' : Option Root) → List Event → List Event → Prop where
  | nil {found found' : Option Root} : Rerooted i found found' [] []
  | start {found found' : Option Root} {es es' : List Event} (root root' : Root) (head : Bool)
    (rest : Rerooted i found found' es es') :
    Rerooted i found found' (.act i (.start root head) :: es) (.act i (.start root' head) :: es')
  | other {found : Option Root} {es es' : List Event} (j : Nat) (root : Root) (head : Bool)
    (rest : Rerooted i found found es es') :
    Rerooted i found found (.act j (.start root head) :: es) (.act j (.start root head) :: es')
  | set {found found' : Option Root} {es es' : List Event} (root : Root)
    (rest : Rerooted i (some root) found' es es') :
    Rerooted i found found' (.setGenesisRoot root :: es) es'
  | set' {found found' : Option Root} {es es' : List Event} (root : Root)
    (rest : Rerooted i found (some root) es es') :
    Rerooted i found found' es (.setGenesisRoot root :: es')
  | same {found found' : Option Root} {es es' : List Event} {e : Event} (start : e.isStart = false)
    (sets : e.setsRoot = false) (rest : Rerooted i found found' es es') :
    Rerooted i found found' (e :: es) (e :: es')

/-- The answers to all events but changes of the genesis root, which have none. -/
def answers (node : Node) (es : List Event) : List Answer :=
  ((node.history es).filter (!·.1.setsRoot)).map (·.2)

theorem answers_cons (node : Node) {e : Event} (sets : e.setsRoot = false) (es : List Event) :
    node.answers (e :: es) = (node.step e).1 :: (node.after e).answers es := by
  rw [answers, history, List.filter_cons_of_pos (by simp [sets])]
  rfl

theorem Started.after (h : node.Started i) (e : Event) : (node.after e).Started i := by
  obtain ⟨c, m, hc, hm⟩ := h
  obtain ⟨c', hc', fixed⟩ := Controller.fixed_after hc hm e
  obtain ⟨m', hm'⟩ := fixed.managers hm
  exact ⟨c', m', hc', hm'⟩

/-- A controller that has been started and everything around it take no notice of the difference. -/
theorem Rerooted.run {found found' : Option Root} {es es' : List Event}
    (h : Rerooted i found found' es es') (alike : node.Alike node') (started : node.Started i)
    (hf : node.schedule.genesisRoot = found) (hf' : node'.schedule.genesisRoot = found') :
    node'.answers es' = node.answers es ∧ (node.run es).Alike (node'.run es') := by
  induction h generalizing node node' with
  | nil => exact ⟨rfl, alike⟩
  | @start _ _ es es' root root' head _ ih =>
    obtain ⟨answer, after, same, same'⟩ :=
      alike.start root root' (.inl started) head
    obtain ⟨answers, run⟩ := ih after (started.after (.act i (.start root head))) (same.trans hf)
      (same'.trans hf')
    refine ⟨?_, run⟩
    rw [answers_cons _ rfl, answers_cons _ rfl]
    exact congrArg₂ List.cons (congrArg Answer.result answer) answers
  | @other _ es es' j root head _ ih =>
    obtain ⟨answer, after, same, same'⟩ :=
      alike.start (i := j) root root (.inr ⟨rfl, hf'.trans hf.symm⟩) head
    obtain ⟨answers, run⟩ := ih after (started.after (.act j (.start root head))) (same.trans hf)
      (same'.trans hf')
    refine ⟨?_, run⟩
    rw [answers_cons _ rfl, answers_cons _ rfl]
    exact congrArg₂ List.cons (congrArg Answer.result answer) answers
  | @set _ _ es es' root _ ih =>
    refine ih ⟨?_, ?_⟩ (started.after (.setGenesisRoot root)) rfl hf'
    · rw [alike.same]
      rfl
    · exact (Schedule.alike_setGenesisRoot node.schedule root).symm.trans alike.schedule
  | @set' _ _ es es' root _ ih =>
    refine ih ⟨?_, ?_⟩ started hf rfl
    · rw [alike.same]
      rfl
    · exact alike.schedule.trans (Schedule.alike_setGenesisRoot node'.schedule root)
  | @same _ _ es es' e start sets _ ih =>
    obtain ⟨answer, after⟩ := alike.plain start sets
    obtain ⟨answers, run⟩ := ih after (started.after e)
      ((congrArg _ (schedule_after node start sets)).trans hf)
      ((congrArg _ (schedule_after node' start sets)).trans hf')
    refine ⟨?_, run⟩
    rw [answers_cons _ sets, answers_cons _ sets]
    exact congrArg₂ List.cons answer answers

end Node

end BeaconGossip
