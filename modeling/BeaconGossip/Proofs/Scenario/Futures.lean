import BeaconGossip.Proofs.Overlay
import BeaconGossip.Scenario

namespace BeaconGossip.Scenario

def FutureUse.keeps? : FutureUse → Option String
  | .keep name => some name
  | _ => none

/-- The name under which the step keeps a future, if it does. -/
def Step.keeps? : Step → Option String
  | .startSettling _ name => some name
  | .publish _ _ use => use.keeps?
  | .gossip _ _ use => use.keeps?
  | .publishPayload _ _ use => use.keeps?
  | .startDelivery _ _ name => some name
  | _ => none

/-- The step, unless it looks at what is kept under the name. -/
def Step.overlooking (name : String) : Step → Step
  | .check n => if n = name then .live else .check n
  | step => step

/-- The run once the steps have been carried out. -/
def carriedOut (s : Scenario) (steps : List Step) : Scenario :=
  steps.foldl (fun s step => (s.step step).2) s

def withFutures (s : Scenario) (futures : List (String × Future)) : Scenario :=
  { s with futures := futures }

variable {name : String} {s : Scenario} {futures : List (String × Future)} {st : Step}

theorem handle_withFutures (s : Scenario) (use : FutureUse) (p : Option Publishing) :
    ∃ kept : List (String × Future), (∀ entry ∈ kept, use.keeps? = some entry.1) ∧
      ∀ futures, (s.withFutures futures).handle use p =
        ((s.handle use p).1, (s.handle use p).2.withFutures (kept ++ futures)) := by
  cases p with
  | none => exact ⟨[], List.forall_mem_nil _, fun _ => rfl⟩
  | some p =>
    cases use with
    | wait => exact ⟨[], List.forall_mem_nil _, fun _ => rfl⟩
    | drop => exact ⟨[], List.forall_mem_nil _, fun _ => rfl⟩
    | keep n => exact ⟨[(n, .publishing p)], by simp [FutureUse.keeps?], fun _ => rfl⟩

/-- What is kept already matters to those steps only that look at it. -/
theorem perform_withFutures (s : Scenario) (blind : ∀ n, st ≠ .check n) :
    ∃ kept : List (String × Future), (∀ entry ∈ kept, st.keeps? = some entry.1) ∧
      ∀ futures, (s.withFutures futures).perform st =
        ((s.perform st).1, (s.perform st).2.withFutures (kept ++ futures)) := by
  have object (futures : List (String × Future)) (id : String) :
      (s.withFutures futures).node.objects[(s.withFutures futures).object id]? =
        s.node.objects[s.object id]? := rfl
  have endpoint (futures : List (String × Future)) (topic : String) :
      (s.withFutures futures).node.hub.overlay.endpoint? topic =
        s.node.hub.overlay.endpoint? topic := rfl
  cases st with
  | check n => exact (blind n rfl).elim
  | startSettling id n =>
    let targets := s.node.targets (s.object id)
    simp only [perform]
    split
    case isTrue settled => exact ⟨[], List.forall_mem_nil _, fun _ => if_pos settled⟩
    case isFalse unsettled =>
      exact ⟨[(n, .settling targets)], by simp [Step.keeps?], fun _ => if_neg unsettled⟩
  | startDelivery topic payload n =>
    simp only [perform, endpoint]
    cases s.node.hub.overlay.endpoint? topic with
    | none => exact ⟨[], List.forall_mem_nil _, fun _ => rfl⟩
    | some e => exact ⟨[(n, .delivery e payload)], by simp [Step.keeps?], fun _ => rfl⟩
  | publish id message use =>
    let published := s.node.publish (s.object id) message
    exact handle_withFutures (s.withNode published.2) use
      (if message.cls = .block then published.1 else none)
  | gossip id a use =>
    let published := s.node.gossip (s.object id) (s.attestation a)
    exact handle_withFutures (s.withNode published.2) use published.1
  | publishPayload id payload use =>
    let published := s.node.publishPayload (s.object id) payload
    exact handle_withFutures (s.withNode published.2) use published.1
  | requestSubnet id index =>
    refine ⟨[], List.forall_mem_nil _, fun futures => ?_⟩
    simp only [perform, changeSubnet, object]
    split <;> rfl
  | releaseSubnet id index =>
    refine ⟨[], List.forall_mem_nil _, fun futures => ?_⟩
    simp only [perform, changeSubnet, object]
    split <;> rfl
  | deliver topic payload =>
    refine ⟨[], List.forall_mem_nil _, fun futures => ?_⟩
    simp only [perform, endpoint]
    split <;> rfl
  | info id =>
    refine ⟨[], List.forall_mem_nil _, fun futures => ?_⟩
    simp only [perform, object]
    split <;> rfl
  | describe id =>
    refine ⟨[], List.forall_mem_nil _, fun futures => ?_⟩
    simp only [perform, object]
    split <;> rfl
  | _ => exact ⟨[], List.forall_mem_nil _, fun _ => rfl⟩

/-- Tasks run if the run asks for that, and the answer takes note of what there is. -/
def answered (s : Scenario) : Scenario :=
  let s := if s.auto then s.withNode s.node.runTasks else s
  { s with lastHub := s.node.hub, lastStatuses := s.statuses }

theorem step_answered (s : Scenario) (st : Step) : (s.step st).2 = (s.perform st).2.answered := rfl

theorem answered_withFutures (s : Scenario) (futures : List (String × Future)) :
    (s.withFutures futures).answered = s.answered.withFutures futures := by
  have auto : (s.withFutures futures).auto = s.auto := rfl
  simp only [answered, auto]
  split <;> rfl

theorem answered_futures (s : Scenario) : s.answered.futures = s.futures := by
  unfold answered
  split <;> rfl

/-- The futures of the run, but for what is kept under the name; and that is the future of a
publish. -/
structure Spares (name : String) (s : Scenario) (futures : List (String × Future)) : Prop where
  others : futures.filter (·.1 ≠ name) = s.futures.filter (·.1 ≠ name)
  publishing : ∀ f, s.futures.lookup name = some f → ∃ p, f = .publishing p

namespace Spares

variable {s' : Scenario}

theorem of_futures (h : Spares name s futures) (same : s'.futures = s.futures) :
    Spares name s' futures := by
  refine ⟨?_, ?_⟩ <;> rw [same]
  · exact h.others
  · exact h.publishing

theorem keep {kept : List (String × Future)} (h : Spares name s futures)
    (apart : ∀ entry ∈ kept, entry.1 ≠ name) (same : s'.futures = kept ++ s.futures) :
    Spares name s' (kept ++ futures) := by
  have missing : kept.lookup name = none :=
    List.lookup_eq_none_iff.2 fun entry he => by simpa using (apart entry he).symm
  refine ⟨?_, ?_⟩ <;> rw [same]
  · rw [List.filter_append, List.filter_append, h.others]
  · rw [List.lookup_append, missing, Option.none_or]
    exact h.publishing

theorem lookup (h : Spares name s futures) {n : String} (hn : n ≠ name) :
    futures.lookup n = s.futures.lookup n := by
  have others := congrArg (List.lookup n) h.others
  simp only [Overlay.lookup_filter_ne, if_neg hn] at others
  exact others

theorem discard (h : Spares name s futures) {n : String} (hn : n ≠ name)
    (same : s'.futures = s.futures.filter (·.1 ≠ n)) :
    Spares name s' (futures.filter (·.1 ≠ n)) := by
  refine ⟨?_, ?_⟩ <;> rw [same]
  · have comm (entries : List (String × Future)) :
        (entries.filter (·.1 ≠ n)).filter (·.1 ≠ name) =
          (entries.filter (·.1 ≠ name)).filter (·.1 ≠ n) := by
      simp only [List.filter_filter, Bool.and_comm]
    rw [comm, comm, h.others]
  · intro f hf
    rw [Overlay.lookup_filter_ne, if_neg hn.symm] at hf
    exact h.publishing f hf

theorem check_own (h : Spares name s futures) :
    ((s.withFutures futures).perform .live).2 = (s.perform (.check name)).2.withFutures futures ∧
      Spares name (s.perform (.check name)).2 futures := by
  simp only [perform]
  cases hf : s.futures.lookup name with
  | none => exact ⟨rfl, h⟩
  | some f =>
    obtain ⟨p, rfl⟩ := h.publishing f hf
    simp only [look]
    cases s.node.hub.result? p with
    | none => exact ⟨rfl, h.of_futures rfl⟩
    | some r =>
      refine ⟨rfl, ?_, ?_⟩
      · exact h.others.trans (by simp)
      · intro f hf
        have none := Overlay.lookup_filter_ne s.futures name name
        rw [if_pos rfl] at none
        exact absurd (hf.symm.trans none) (Option.some_ne_none f)

theorem check_other (h : Spares name s futures) {n : String} (hn : n ≠ name) :
    ∃ futures', ((s.withFutures futures).perform (.check n)).2 =
        (s.perform (.check n)).2.withFutures futures' ∧
      Spares name (s.perform (.check n)).2 futures' := by
  have found : (s.withFutures futures).futures.lookup n = s.futures.lookup n := h.lookup hn
  have seen (f : Future) : (s.withFutures futures).look f = s.look f := by cases f <;> rfl
  simp only [perform, found]
  cases s.futures.lookup n with
  | none => exact ⟨futures, rfl, h⟩
  | some f =>
    simp only [seen]
    split
    · exact ⟨futures, rfl, h.of_futures rfl⟩
    · exact ⟨_, rfl, h.discard hn rfl⟩

theorem perform (h : Spares name s futures) (free : st.keeps? ≠ some name) :
    ∃ futures', ((s.withFutures futures).perform (st.overlooking name)).2 =
        (s.perform st).2.withFutures futures' ∧ Spares name (s.perform st).2 futures' := by
  by_cases looks : ∃ n, st = .check n
  · obtain ⟨n, rfl⟩ := looks
    by_cases hn : n = name
    · subst hn
      rw [Step.overlooking, if_pos rfl]
      exact ⟨futures, h.check_own⟩
    · rw [Step.overlooking, if_neg hn]
      exact h.check_other hn
  · have blind : ∀ n, st ≠ .check n := fun n hs => looks ⟨n, hs⟩
    have same : st.overlooking name = st := by
      cases st with
      | check n => exact (blind n rfl).elim
      | _ => rfl
    obtain ⟨kept, names, performed⟩ := s.perform_withFutures blind
    have own : (s.perform st).2.futures = kept ++ s.futures :=
      congrArg (·.2.futures) (performed s.futures)
    rw [same, performed]
    refine ⟨_, rfl, h.keep (fun entry he hn => free ?_) own⟩
    rw [names entry he, hn]

theorem step (h : Spares name s futures) (free : st.keeps? ≠ some name) :
    ∃ futures', ((s.withFutures futures).step (st.overlooking name)).2 =
        (s.step st).2.withFutures futures' ∧ Spares name (s.step st).2 futures' := by
  obtain ⟨futures', same, spares⟩ := h.perform free
  refine ⟨futures', ?_, ?_⟩
  · rw [step_answered, step_answered, same, answered_withFutures]
  · rw [step_answered]
    exact spares.of_futures (answered_futures _)

theorem carriedOut (h : Spares name s futures) {steps : List Step}
    (free : ∀ st ∈ steps, st.keeps? ≠ some name) :
    ∃ futures', (s.withFutures futures).carriedOut (steps.map (·.overlooking name)) =
      (s.carriedOut steps).withFutures futures' := by
  induction steps generalizing s futures with
  | nil => exact ⟨futures, rfl⟩
  | cons st rest ih =>
    rw [List.forall_mem_cons] at free
    obtain ⟨futures', same, spares⟩ := h.step free.1
    obtain ⟨futures'', last⟩ := ih spares free.2
    refine ⟨futures'', ?_⟩
    rw [← same] at last
    exact last

end Spares

/-- The node never learns what has become of the future. -/
theorem node_carriedOut_dropped (s : Scenario) {id : String} {message : Message}
    (told : ∃ p, (s.node.publish (s.object id) message).1 = some p ∧ message.cls = .block)
    {steps : List Step} (free : ∀ st ∈ steps, st.keeps? ≠ some name) :
    ((s.step (.publish id message .drop)).2.carriedOut (steps.map (·.overlooking name))).node =
      ((s.step (.publish id message (.keep name))).2.carriedOut steps).node := by
  obtain ⟨p, hp, hm⟩ := told
  let kept := (s.step (.publish id message (.keep name))).2
  have futures : kept.futures = (name, .publishing p) :: s.futures := by
    simp only [kept, step_answered, answered_futures, perform, hp, hm]
    rfl
  have dropped : (s.step (.publish id message .drop)).2 = kept.withFutures s.futures := by
    simp only [kept, step_answered, ← answered_withFutures, perform, hp, hm]
    rfl
  have spares : Spares name kept s.futures := by
    refine ⟨?_, ?_⟩ <;> rw [futures]
    · rw [List.filter_cons_of_neg (by simp)]
    · intro f hf
      rw [List.lookup_cons_self, Option.some.injEq] at hf
      exact ⟨p, hf.symm⟩
  obtain ⟨futures', same⟩ := spares.carriedOut free
  rw [dropped, same]
  rfl

end BeaconGossip.Scenario
