import BeaconGossip.Text.Decimal
import BeaconGossip.MessageClass
import BeaconGossip.Octets

namespace BeaconGossip

namespace Dump

/-- The longest tag, in characters. -/
def tagLimit : Nat := 48

def isPlain (c : Char) : Bool := c.isAlphanum

/-- Keeps ASCII letters and digits; any other character becomes an underscore. -/
def tag (reason : String) : List Char :=
  (reason.toList.take tagLimit).map fun c => if isPlain c then c else '_'

/-- Decimal digits, filled up with zeros to at least six. -/
def sequenceDigits (sequence : Nat) : List Char :=
  let digits := Text.Decimal.write sequence
  List.replicate (6 - digits.length) '0' ++ digits

/-- The name without its clock reading. -/
def shortName (sequence : Nat) (reason : String) : List Char :=
  sequenceDigits sequence ++ '_' :: tag reason ++ ".bin".toList

def fileName (millis sequence : Nat) (reason : String) : List Char :=
  Text.Decimal.write millis ++ '_' :: shortName sequence reason

/-- What follows the clock reading in a file's name. -/
def dropMillis (name : List Char) : List Char := (name.dropWhile (· ≠ '_')).drop 1

structure Job where
  cls : MessageClass
  payload : Bytes
  reason : String
  deriving DecidableEq

structure File where
  directory : MessageClass
  name : List Char
  payload : Bytes
  deriving DecidableEq

/-- What waits for the writer. -/
inductive Item where
  | write (job : Job)
  | flush (number : Nat)
  deriving DecidableEq

def Item.job? : Item → Option Job
  | write job => some job
  | flush _ => none

def Item.flush? : Item → Option Nat
  | write _ => none
  | flush n => some n

end Dump

structure Dump where
  /-- What the writer has not come to yet. -/
  queue : List Dump.Item
  /-- Number of the next write. -/
  sequence : Nat
  files : List Dump.File
  /-- Classes whose directories cannot be written, so that writes there fail. -/
  obstructed : List MessageClass
  writerAlive : Bool
  /-- Flushes that have been called, numbered from zero. -/
  called : Nat
  /-- Flushes that have returned. -/
  returned : List Nat
  deriving DecidableEq

namespace Dump

def empty : Dump := ⟨[], 0, [], [], true, 0, []⟩

/-- The saves that the writer has not come to. -/
def jobs (d : Dump) : List Job := d.queue.filterMap Item.job?

/-- The flushes that the writer has not come to. -/
def waiting (d : Dump) : List Nat := d.queue.filterMap Item.flush?

/-- Queues a payload. Without a writer it is lost. -/
def save (d : Dump) (job : Job) : Dump :=
  if d.writerAlive then { d with queue := d.queue ++ [.write job] } else d

/-- A flush takes its place in the queue. Without a writer it returns at once. -/
def callFlush (d : Dump) : Dump :=
  if d.writerAlive then { d with queue := d.queue ++ [.flush d.called], called := d.called + 1 }
  else { d with called := d.called + 1, returned := d.returned ++ [d.called] }

/-- Writing to a path replaces what was there. -/
def write (files : List File) (f : File) : List File :=
  files.filter (fun g => ¬ (g.directory = f.directory ∧ g.name = f.name)) ++ [f]

/-- Writes one payload. The sequence number is used up even if that fails. -/
def writeJob (d : Dump) (millis : Nat) (job : Job) : Dump :=
  { d with
    sequence := d.sequence + 1
    files :=
      if job.cls ∈ d.obstructed then d.files
      else write d.files ⟨job.cls, fileName millis d.sequence job.reason, job.payload⟩ }

/-- The writer takes what is next. Only a write reads the clock. -/
def turn (d : Dump) (millis : Nat) : Dump :=
  match d.queue with
  | [] => d
  | .write job :: rest => { d.writeJob millis job with queue := rest }
  | .flush n :: rest => { d with queue := rest, returned := d.returned ++ [n] }

/-- Calls a flush and waits for it while nothing else is queued. The clock gives the reading at each
write. -/
def flush (d : Dump) (clock : Nat → Nat) : Dump :=
  let d := d.callFlush
  d.queue.foldl (fun d _ => d.turn (clock d.sequence)) d

/-- From here on the directories of these classes cannot be written, and only these. -/
def block (d : Dump) (classes : List MessageClass) : Dump := { d with obstructed := classes }

/-- Puts something in the way of the class directory, unless it is there already. -/
def obstruct (d : Dump) (c : MessageClass) : Dump :=
  if d.files.any (·.directory = c) then d else d.block (c :: d.obstructed)

/-- The writer goes away, and with it the payloads that it has not written. Flushes that wait for it
return. -/
def stopWriter (d : Dump) : Dump :=
  { d with queue := [], writerAlive := false, returned := d.returned ++ d.waiting }

/-- The files with clock readings left out, by name. -/
def listing (d : Dump) : List (MessageClass × String × Bytes) :=
  (d.files.map fun f => (f.directory, String.ofList (dropMillis f.name), f.payload)).mergeSort
    fun a b => decide (¬ b.2.1 < a.2.1)

end Dump

end BeaconGossip
