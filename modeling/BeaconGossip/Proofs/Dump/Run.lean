import BeaconGossip.Proofs.Dump.Name
import Mathlib.Data.List.Induction
import Mathlib.Data.List.Nodup

namespace BeaconGossip

namespace Dump

/-- What happens to a dump, by whoever holds it, its writer or its file system. -/
inductive Event where
  | save (job : Job)
  | flush
  | block (classes : List MessageClass)
  | turn (millis : Nat)
  | stopWriter

def Event.job? : Event → Option Job
  | save job => some job
  | _ => none

def Event.block? : Event → Option (List MessageClass)
  | block classes => some classes
  | _ => none

/-- The classes that cannot be written after the events. -/
def blocked (es : List Event) : List MessageClass :=
  ((es.filterMap Event.block?).getLast?).getD []

def step (d : Dump) : Event → Dump
  | .save job => d.save job
  | .flush => d.callFlush
  | .block classes => d.block classes
  | .turn millis => d.turn millis
  | .stopWriter => d.stopWriter

def run (d : Dump) (es : List Event) : Dump := es.foldl step d

/-- A write the writer has made or tried to make. -/
structure Attempt where
  number : Nat
  millis : Nat
  job : Job
  stored : Bool

def Attempt.file (a : Attempt) : File :=
  ⟨a.job.cls, fileName a.millis a.number a.job.reason, a.job.payload⟩

def Attempt.path (a : Attempt) : MessageClass × List Char := (a.file.directory, a.file.name)

/-- The write that the writer turns to in a step. -/
def attempt? (d : Dump) : Event → Option Attempt
  | .turn millis =>
    match d.queue with
    | .write job :: _ => some ⟨d.sequence, millis, job, decide (job.cls ∉ d.obstructed)⟩
    | _ => none
  | _ => none

def attempts (d : Dump) : List Event → List Attempt
  | [] => []
  | e :: es => (d.attempt? e).toList ++ (d.step e).attempts es

variable {d : Dump} {e : Event} {es : List Event} {log : List Attempt}

theorem run_append (d : Dump) (es later : List Event) :
    d.run (es ++ later) = (d.run es).run later :=
  List.foldl_append

theorem run_snoc (d : Dump) (es : List Event) (e : Event) :
    d.run (es ++ [e]) = (d.run es).step e :=
  d.run_append es [e]

theorem attempts_append (d : Dump) (es later : List Event) :
    d.attempts (es ++ later) = d.attempts es ++ (d.run es).attempts later := by
  induction es generalizing d with
  | nil => rfl
  | cons e es ih =>
    rw [List.cons_append, attempts, attempts, ih, List.append_assoc]
    rfl

theorem attempts_snoc (d : Dump) (es : List Event) (e : Event) :
    d.attempts (es ++ [e]) = d.attempts es ++ ((d.run es).attempt? e).toList := by
  rw [attempts_append, attempts, attempts, List.append_nil]

theorem save_alive (alive : d.writerAlive = true) (job : Job) :
    d.save job = { d with queue := d.queue ++ [.write job] } :=
  if_pos alive

theorem save_gone (gone : d.writerAlive = false) (job : Job) : d.save job = d := by
  rw [save, gone]
  rfl

theorem callFlush_alive (alive : d.writerAlive = true) :
    d.callFlush = { d with queue := d.queue ++ [.flush d.called], called := d.called + 1 } :=
  if_pos alive

theorem callFlush_gone (gone : d.writerAlive = false) :
    d.callFlush = { d with called := d.called + 1, returned := d.returned ++ [d.called] } := by
  rw [callFlush, gone]
  rfl

theorem turn_nil (none : d.queue = []) (millis : Nat) : d.turn millis = d := by
  rw [turn, none]

theorem turn_write {job : Job} {rest : List Item} (next : d.queue = .write job :: rest)
    (millis : Nat) : d.turn millis = { d.writeJob millis job with queue := rest } := by
  rw [turn, next]

theorem turn_flush {number : Nat} {rest : List Item} (next : d.queue = .flush number :: rest)
    (millis : Nat) :
    d.turn millis = { d with queue := rest, returned := d.returned ++ [number] } := by
  rw [turn, next]

theorem attempt?_write {job : Job} {rest : List Item} (next : d.queue = .write job :: rest)
    (millis : Nat) :
    d.attempt? (.turn millis) = some ⟨d.sequence, millis, job, decide (job.cls ∉ d.obstructed)⟩ := by
  rw [attempt?, next]

theorem queue_turn (d : Dump) (millis : Nat) : (d.turn millis).queue = d.queue.tail := by
  rw [turn]
  split
  case h_1 none => rw [none, List.tail_nil]
  case h_2 next => rw [next, List.tail_cons]
  case h_3 next => rw [next, List.tail_cons]

/-- Every attempt has a number of its own, and what was stored is on disk. -/
structure Written (d : Dump) (log : List Attempt) : Prop where
  numbers : log.map (·.number) = List.range log.length
  sequence : d.sequence = log.length
  files : d.files = (log.filter (·.stored)).map (·.file)

/-- Names differ by their numbers. -/
theorem Written.paths_nodup (h : d.Written log) : (log.map (·.path)).Nodup := by
  have numbers : (log.map (·.number)).Nodup := by
    rw [h.numbers]
    exact List.nodup_range
  have read : log.map (·.number) = (log.map (·.path)).map fun p => sequenceOf p.2 := by
    rw [List.map_map]
    exact List.map_congr_left fun a _ => sequenceOf_fileName.symm
  rw [read] at numbers
  exact List.Nodup.of_map _ numbers

theorem Written.write_eq (h : d.Written log) (job : Job) (millis : Nat) :
    write d.files ⟨job.cls, fileName millis d.sequence job.reason, job.payload⟩ =
      d.files ++ [⟨job.cls, fileName millis d.sequence job.reason, job.payload⟩] := by
  rw [write, List.filter_eq_self.2]
  intro f hf
  rw [h.files] at hf
  obtain ⟨a, ha, rfl⟩ := List.mem_map.1 hf
  apply decide_eq_true
  intro same
  have number : a.number = d.sequence := sequence_inj same.2
  have lt : a.number ∈ List.range log.length := by
    rw [← h.numbers]
    exact List.mem_map_of_mem (List.mem_of_mem_filter ha)
  rw [List.mem_range, number, h.sequence] at lt
  exact Nat.lt_irrefl _ lt

theorem Written.congr {d' : Dump} (h : d.Written log) (sequence : d'.sequence = d.sequence)
    (files : d'.files = d.files) : d'.Written (log ++ []) := by
  rw [List.append_nil]
  exact ⟨h.numbers, sequence.trans h.sequence, files.trans h.files⟩

theorem Written.write {job : Job} {rest : List Item} (h : d.Written log)
    (next : d.queue = .write job :: rest) (millis : Nat) :
    (d.turn millis).Written (log ++ (d.attempt? (.turn millis)).toList) := by
  rw [turn_write next, attempt?_write next]
  constructor
  · simp [h.numbers, h.sequence, List.range_succ]
  · simp [writeJob, h.sequence]
  · by_cases blocked : job.cls ∈ d.obstructed
    · simp [writeJob, blocked, h.files]
    · simp only [writeJob, blocked, h.write_eq]
      simp [h.files, Attempt.file]

theorem Written.step (h : d.Written log) (e : Event) :
    (d.step e).Written (log ++ (d.attempt? e).toList) := by
  cases e with
  | save job =>
    apply h.congr
    all_goals
      rw [Dump.step, save]
      split <;> rfl
  | flush =>
    apply h.congr
    all_goals
      rw [Dump.step, callFlush]
      split <;> rfl
  | block classes => exact h.congr rfl rfl
  | stopWriter => exact h.congr rfl rfl
  | turn millis =>
    rw [Dump.step]
    cases next : d.queue with
    | nil =>
      rw [turn_nil next, attempt?, next]
      exact h.congr rfl rfl
    | cons item rest =>
      cases item with
      | write job => exact h.write next millis
      | flush n =>
        rw [turn_flush next, attempt?, next]
        exact h.congr rfl rfl

theorem written_run (es : List Event) : (empty.run es).Written (empty.attempts es) := by
  induction es using List.reverseRecOn with
  | nil => exact ⟨rfl, rfl, rfl⟩
  | append_singleton es e ih =>
    rw [run_snoc, attempts_snoc]
    exact ih.step e

theorem alive_step (d : Dump) (e : Event) :
    (d.step e).writerAlive = true ↔ d.writerAlive = true ∧ e ≠ .stopWriter := by
  cases e with
  | save job =>
    rw [step, save]
    split <;> simp
  | flush =>
    rw [step, callFlush]
    split <;> simp
  | block classes => simp [step, block]
  | turn millis =>
    rw [step, turn]
    split <;> simp [writeJob]
  | stopWriter => simp [step, stopWriter]

theorem alive_of_step (h : (d.step e).writerAlive = true) : d.writerAlive = true :=
  ((d.alive_step e).1 h).1

theorem alive_run (es : List Event) :
    (empty.run es).writerAlive = true ↔ Event.stopWriter ∉ es := by
  induction es using List.reverseRecOn with
  | nil => exact iff_of_true rfl List.not_mem_nil
  | append_singleton es e ih =>
    rw [run_snoc, alive_step, ih, List.mem_append, List.mem_singleton, not_or]
    exact and_congr_right fun _ => ne_comm

theorem obstructed_step (d : Dump) (e : Event) :
    (d.step e).obstructed = e.block?.getD d.obstructed := by
  cases e with
  | save job =>
    rw [step, save]
    split <;> rfl
  | flush =>
    rw [step, callFlush]
    split <;> rfl
  | block classes => rfl
  | turn millis =>
    rw [step, turn]
    split <;> rfl
  | stopWriter => rfl

theorem obstructed_run (es : List Event) : (empty.run es).obstructed = blocked es := by
  induction es using List.reverseRecOn with
  | nil => rfl
  | append_singleton es e ih =>
    rw [run_snoc, obstructed_step, ih, blocked, blocked, List.filterMap_append]
    cases he : e.block? <;> simp [he]

theorem jobs_step (alive : (d.step e).writerAlive = true) :
    ((d.attempt? e).toList.map (·.job)) ++ (d.step e).jobs = d.jobs ++ e.job?.toList := by
  have before := alive_of_step alive
  cases e with
  | save job => simp [step, save_alive before, jobs, attempt?, Item.job?, Event.job?]
  | flush => simp [step, callFlush_alive before, jobs, attempt?, Item.job?, Event.job?]
  | block classes => simp [step, block, jobs, attempt?, Event.job?]
  | stopWriter => cases alive
  | turn millis =>
    cases next : d.queue with
    | nil => simp [step, turn_nil next, attempt?, next, Event.job?]
    | cons item rest =>
      cases item <;>
        simp [step, jobs, queue_turn, attempt?, next, Item.job?, Event.job?, List.filterMap_cons]

theorem jobs_run (alive : (empty.run es).writerAlive = true) :
    (empty.attempts es).map (·.job) ++ (empty.run es).jobs = es.filterMap Event.job? := by
  induction es using List.reverseRecOn with
  | nil => rfl
  | append_singleton es e ih =>
    rw [run_snoc] at alive ⊢
    rw [attempts_snoc, List.map_append, List.append_assoc, jobs_step alive, ← List.append_assoc,
      ih (alive_of_step alive), List.filterMap_append]
    cases he : e.job? <;> simp [he]

/-- Flushes return in the order in which they are called, and none waits for a writer that is
gone. -/
structure Ordered (d : Dump) : Prop where
  flushes : d.returned ++ d.waiting = List.range d.called
  gone : d.writerAlive = false → d.queue = []

theorem Ordered.returned_of_nil (h : d.Ordered) (none : d.queue = []) :
    d.returned = List.range d.called := by
  have flushes := h.flushes
  rw [waiting, none] at flushes
  exact (List.append_nil _).symm.trans flushes

theorem Ordered.returned_of_gone (h : d.Ordered) (gone : d.writerAlive = false) :
    d.returned = List.range d.called :=
  h.returned_of_nil (h.gone gone)

theorem Ordered.alive_of_cons {item : Item} {rest : List Item} (h : d.Ordered)
    (next : d.queue = item :: rest) : d.writerAlive = true := by
  cases alive : d.writerAlive with
  | true => rfl
  | false =>
    rw [h.gone alive] at next
    cases next

theorem Ordered.save (h : d.Ordered) (job : Job) : (d.save job).Ordered := by
  cases alive : d.writerAlive with
  | false => exact (save_gone alive job).symm ▸ h
  | true =>
    rw [save_alive alive]
    constructor
    · simpa [waiting, Item.flush?, List.filterMap_cons] using h.flushes
    · intro gone
      cases alive.symm.trans gone

theorem Ordered.callFlush (h : d.Ordered) : d.callFlush.Ordered := by
  cases alive : d.writerAlive with
  | false =>
    rw [callFlush_gone alive]
    have returned := h.returned_of_gone alive
    have none : d.waiting = [] := by
      rw [waiting, h.gone alive]
      rfl
    constructor
    · rw [List.range_succ, ← returned]
      exact (congrArg _ none).trans (List.append_nil _)
    · exact h.gone
  | true =>
    rw [callFlush_alive alive]
    constructor
    · rw [List.range_succ, ← h.flushes]
      simp [waiting, Item.flush?]
    · intro gone
      cases alive.symm.trans gone

theorem Ordered.turn (h : d.Ordered) (millis : Nat) : (d.turn millis).Ordered := by
  have flushes := h.flushes
  cases next : d.queue with
  | nil => exact (turn_nil next millis).symm ▸ h
  | cons item rest =>
    have alive := h.alive_of_cons next
    cases item with
    | write job =>
      rw [turn_write next]
      constructor
      · simpa [writeJob, waiting, next, Item.flush?, List.filterMap_cons] using flushes
      · intro gone
        cases alive.symm.trans gone
    | flush n =>
      rw [turn_flush next]
      constructor
      · simpa [waiting, next, Item.flush?, List.filterMap_cons] using flushes
      · intro gone
        cases alive.symm.trans gone

theorem Ordered.step (h : d.Ordered) (e : Event) : (d.step e).Ordered := by
  cases e with
  | save job => exact h.save job
  | flush => exact h.callFlush
  | block classes => exact ⟨h.flushes, h.gone⟩
  | turn millis => exact h.turn millis
  | stopWriter => exact ⟨(List.append_nil _).trans h.flushes, fun _ => rfl⟩

theorem ordered_empty : empty.Ordered := ⟨rfl, fun _ => rfl⟩

theorem Ordered.run (h : d.Ordered) (es : List Event) : (d.run es).Ordered := by
  induction es generalizing d with
  | nil => exact h
  | cons e es ih => exact ih (h.step e)

/-- The writer has yet to come to the flush, and before it to the rest of what was saved until
then. -/
def Waits (number : Nat) (saved : List Job) (queue : List Item) (log : List Attempt) : Prop :=
  ∃ ahead behind, queue = ahead ++ .flush number :: behind ∧
    log.map (·.job) ++ ahead.filterMap Item.job? = saved

variable {number : Nat} {saved : List Job} {queue : List Item}

theorem Waits.mem_waiting (h : Waits number saved d.queue log) : number ∈ d.waiting := by
  obtain ⟨ahead, behind, hq, -⟩ := h
  rw [waiting, hq, List.mem_filterMap]
  exact ⟨.flush number, List.mem_append_right ahead List.mem_cons_self, rfl⟩

theorem Waits.append (h : Waits number saved queue log) (item : Item) :
    Waits number saved (queue ++ [item]) (log ++ []) := by
  obtain ⟨ahead, behind, hq, hs⟩ := h
  refine ⟨ahead, behind ++ [item], ?_, ?_⟩
  · rw [hq, List.append_assoc]
    rfl
  · rw [List.append_nil]
    exact hs

/-- Nothing but the turn at the flush itself ends the wait. -/
theorem Waits.step (h : Waits number saved d.queue log) (alive : (d.step e).writerAlive = true) :
    Waits number saved (d.step e).queue (log ++ (d.attempt? e).toList) ∨
      number ∈ (d.step e).returned ∧ d.attempt? e = none ∧ log.map (·.job) = saved := by
  have before := alive_of_step alive
  cases e with
  | save job =>
    left
    rw [Dump.step, save_alive before]
    exact h.append (.write job)
  | flush =>
    left
    rw [Dump.step, callFlush_alive before]
    exact h.append (.flush d.called)
  | block classes =>
    left
    exact (List.append_nil log).symm ▸ h
  | stopWriter => cases alive
  | turn millis =>
    obtain ⟨ahead, behind, hq, hs⟩ := h
    cases ahead with
    | nil =>
      right
      rw [List.filterMap_nil, List.append_nil] at hs
      simp [Dump.step, turn_flush hq, attempt?, hq, hs]
    | cons item ahead =>
      left
      refine ⟨ahead, behind, ?_, ?_⟩
      · rw [Dump.step, queue_turn, hq]
        rfl
      · cases item <;> simpa [attempt?, hq, Item.job?, List.filterMap_cons] using hs

theorem returned_step (h : number ∈ d.returned) (e : Event) : number ∈ (d.step e).returned := by
  cases e with
  | save job =>
    rw [step, save]
    split <;> exact h
  | flush =>
    rw [step, callFlush]
    split
    · exact h
    · exact List.mem_append_left _ h
  | block classes => exact h
  | stopWriter => exact List.mem_append_left _ h
  | turn millis =>
    rw [step, turn]
    split
    · exact h
    · exact h
    · exact List.mem_append_left _ h

/-- Between the call of a flush and its return, the writer has what was saved before the call. -/
theorem waits_run (before after : List Event)
    (alive : (empty.run (before ++ .flush :: after)).writerAlive = true) :
    (empty.run before).called ∈ (empty.run (before ++ .flush :: after)).returned ∨
      Waits (empty.run before).called (before.filterMap Event.job?)
        (empty.run (before ++ .flush :: after)).queue
        (empty.attempts (before ++ .flush :: after)) := by
  induction after using List.reverseRecOn with
  | nil =>
    right
    rw [run_snoc] at alive ⊢
    have live := alive_of_step alive
    have log : empty.attempts (before ++ [.flush]) = empty.attempts before :=
      (empty.attempts_snoc before .flush).trans (List.append_nil _)
    rw [log, step, callFlush_alive live]
    exact ⟨(empty.run before).queue, [], rfl, jobs_run live⟩
  | append_singleton after e ih =>
    have hs : before ++ .flush :: (after ++ [e]) = (before ++ .flush :: after) ++ [e] := by simp
    rw [hs, run_snoc] at alive ⊢
    rw [attempts_snoc]
    rcases ih (alive_of_step alive) with returned | waits
    · exact .inl (returned_step returned e)
    · rcases waits.step alive with waits | ⟨returned, -⟩
      · exact .inr waits
      · exact .inl returned

theorem saved_of_returned (before after : List Event) (e : Event)
    (alive : (empty.run (before ++ .flush :: after ++ [e])).writerAlive = true)
    (pending : (empty.run before).called ∉ (empty.run (before ++ .flush :: after)).returned)
    (returned : (empty.run before).called ∈
      (empty.run (before ++ .flush :: after ++ [e])).returned) :
    (empty.attempts (before ++ .flush :: after ++ [e])).map (·.job) =
      before.filterMap Event.job? := by
  have ordered := ordered_empty.run (before ++ .flush :: after ++ [e])
  rw [run_snoc] at alive returned ordered
  rw [attempts_snoc]
  have waits := (waits_run before after (alive_of_step alive)).resolve_left pending
  rcases waits.step alive with waits | ⟨-, none, saved⟩
  · -- No flush both has returned and waits.
    have nodup := List.nodup_range (n := ((empty.run (before ++ .flush :: after)).step e).called)
    rw [← ordered.flushes] at nodup
    exact (List.disjoint_of_nodup_append nodup returned waits.mem_waiting).elim
  · rw [none, Option.toList_none, List.append_nil]
    exact saved

theorem Ordered.returned_of_turns (h : d.Ordered) (readings : List Nat)
    (enough : d.queue.length ≤ readings.length) :
    (d.run (readings.map .turn)).returned = List.range (d.run (readings.map .turn)).called := by
  induction readings generalizing d with
  | nil => exact h.returned_of_nil (List.eq_nil_of_length_eq_zero (Nat.le_zero.1 enough))
  | cons millis readings ih =>
    apply ih (h.step (.turn millis))
    rw [Dump.step, queue_turn, List.length_tail]
    exact Nat.sub_le_of_le_add enough

theorem foldl_turn (clock : Nat → Nat) (waiting : d.queue = queue) :
    ∃ readings : List Nat,
      queue.foldl (fun d _ => d.turn (clock d.sequence)) d = d.run (readings.map .turn) ∧
        (d.run (readings.map .turn)).queue = [] := by
  induction queue generalizing d with
  | nil => exact ⟨[], rfl, waiting⟩
  | cons item rest ih =>
    have next : (d.turn (clock d.sequence)).queue = rest := by
      rw [queue_turn, waiting, List.tail_cons]
    obtain ⟨readings, turns, none⟩ := ih next
    exact ⟨clock d.sequence :: readings, turns, none⟩

theorem called_turn (d : Dump) (millis : Nat) : (d.turn millis).called = d.called := by
  rw [turn]
  split <;> rfl

theorem called_turns (d : Dump) (readings : List Nat) :
    (d.run (readings.map .turn)).called = d.called := by
  induction readings generalizing d with
  | nil => rfl
  | cons millis readings ih => exact (ih _).trans (d.called_turn millis)

theorem called_callFlush (d : Dump) : d.callFlush.called = d.called + 1 := by
  rw [callFlush]
  split <;> rfl

theorem flush_eq_run (d : Dump) (clock : Nat → Nat) :
    ∃ readings : List Nat, d.flush clock = d.run (.flush :: readings.map .turn) ∧
      (d.flush clock).queue = [] := by
  obtain ⟨readings, turns, none⟩ := foldl_turn clock (d := d.callFlush) rfl
  exact ⟨readings, turns, (congrArg Dump.queue turns).trans none⟩

theorem attempt?_gone (h : d.Ordered) (gone : d.writerAlive = false) (e : Event) :
    d.attempt? e = none := by
  cases e with
  | turn millis => simp only [attempt?, h.gone gone]
  | _ => rfl

theorem files_step_gone (h : d.Ordered) (gone : d.writerAlive = false) (e : Event) :
    (d.step e).files = d.files := by
  cases e with
  | turn millis => rw [step, turn_nil (h.gone gone)]
  | save job => rw [step, save_gone gone]
  | flush => rw [step, callFlush_gone gone]
  | block classes => rfl
  | stopWriter => rfl

theorem run_gone (h : d.Ordered) (gone : d.writerAlive = false) (es : List Event) :
    (d.run es).files = d.files ∧ d.attempts es = [] ∧
      (d.run es).returned = List.range (d.run es).called := by
  induction es generalizing d with
  | nil => exact ⟨rfl, rfl, h.returned_of_gone gone⟩
  | cons e es ih =>
    have still : (d.step e).writerAlive = false := by
      rw [Bool.eq_false_iff]
      intro alive
      cases gone.symm.trans (alive_of_step alive)
    obtain ⟨ihf, iha, ihr⟩ := ih (h.step e) still
    refine ⟨ihf.trans (files_step_gone h gone e), ?_, ihr⟩
    rw [attempts, attempt?_gone h gone, iha]
    rfl

/-- No two saves are written to the same path, whatever the clock reads. When a flush returns, the
files are those of the saves before it whose writes did not fail, each under the number of saves
before it. Once the writer is gone, nothing is written and no flush waits. The program's own flush is
such a run. -/
theorem keeps_every_payload (es : List Event) :
    let d := empty.run es
    let log := empty.attempts es
    (d.writerAlive = true ↔ Event.stopWriter ∉ es) ∧ d.obstructed = blocked es ∧
      (log.map (·.path)).Nodup ∧
      (∀ a ∈ log,
        a.file = ⟨a.job.cls, Text.Decimal.write a.millis ++ '_' :: (sequenceDigits a.number ++
          '_' :: tag a.job.reason ++ ".bin".toList), a.job.payload⟩ ∧
        6 ≤ (sequenceDigits a.number).length ∧
        Nat.ofDigitChars 10 (sequenceDigits a.number) 0 = a.number) ∧
      (d.writerAlive = true →
        (∀ before after e, es = before ++ .flush :: after ++ [e] →
          (empty.run before).called ∉ (empty.run (before ++ .flush :: after)).returned →
          (empty.run before).called ∈ d.returned →
            log.map (·.job) = before.filterMap Event.job? ∧
              log.map (·.number) = List.range log.length ∧
              d.files = (log.filter (·.stored)).map (·.file)) ∧
        ∀ readings : List Nat, d.queue.length ≤ readings.length →
          (d.run (readings.map .turn)).returned =
            List.range (d.run (readings.map .turn)).called) ∧
      (d.writerAlive = false →
        (∀ job, d.save job = d) ∧
        ∀ later, (d.run later).files = d.files ∧ d.attempts later = [] ∧
          (d.run later).returned = List.range (d.run later).called) ∧
      ∀ clock : Nat → Nat,
        (∃ readings : List Nat, d.flush clock = d.run (.flush :: readings.map .turn)) ∧
          (d.flush clock).returned = List.range (d.called + 1) := by
  intro d log
  have written : d.Written log := written_run es
  have ordered : d.Ordered := ordered_empty.run es
  refine ⟨alive_run es, obstructed_run es, written.paths_nodup, ?named, ?alive, ?gone, ?flushed⟩
  case named =>
    intro a _
    exact ⟨rfl, six_le_length_sequenceDigits a.number, ofDigitChars_sequenceDigits a.number⟩
  case alive =>
    intro alive
    constructor
    · rintro before after e rfl pending returned
      exact ⟨saved_of_returned before after e alive pending returned, written.numbers,
        written.files⟩
    · exact ordered.returned_of_turns
  case gone =>
    intro gone
    exact ⟨save_gone gone, run_gone ordered gone⟩
  case flushed =>
    intro clock
    obtain ⟨readings, turns, none⟩ := d.flush_eq_run clock
    refine ⟨⟨readings, turns⟩, ?_⟩
    rw [turns] at none ⊢
    rw [(ordered.run (.flush :: readings.map .turn)).returned_of_nil none, ← d.called_callFlush]
    exact congrArg List.range (d.callFlush.called_turns readings)

/-- The second write fails and uses its number up; the last save comes after the flush. -/
theorem keeps_every_payload_past_failure :
    let before : List Event := [.save ⟨.block, [1], "a/b"⟩, .save ⟨.block, [1], "a/b"⟩,
      .save ⟨.voluntaryExit, [2], ""⟩]
    let after : List Event := [.save ⟨.block, [3], "c"⟩, .turn 7, .block [.block], .turn 7, .turn 6]
    let d := empty.run (before ++ .flush :: after ++ [.turn 6])
    let log := empty.attempts (before ++ .flush :: after ++ [.turn 6])
    d.writerAlive = true ∧ 0 ∉ (empty.run (before ++ .flush :: after)).returned ∧
      0 ∈ d.returned ∧ log.map (·.job) = before.filterMap Event.job? ∧
      d.files = [⟨.block, "7_000000_a_b.bin".toList, [1]⟩,
        ⟨.voluntaryExit, "6_000002_.bin".toList, [2]⟩] := by
  intro before after d log
  have alive : d.writerAlive = true := by decide +kernel
  have pending : 0 ∉ (empty.run (before ++ .flush :: after)).returned := by decide +kernel
  have returned : 0 ∈ d.returned := by decide +kernel
  obtain ⟨-, -, -, -, kept, -, -⟩ := keeps_every_payload (before ++ .flush :: after ++ [.turn 6])
  obtain ⟨jobs, -, -⟩ := (kept alive).1 before after (.turn 6) rfl pending returned
  exact ⟨alive, pending, returned, jobs, by decide +kernel⟩

end Dump

end BeaconGossip
