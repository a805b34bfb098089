import BeaconGossip.Fork
import BeaconGossip.MessageClass

namespace BeaconGossip

inductive Verdict where
  /-- Valid, and passed on to other peers. -/
  | accept
  /-- Not passed on, without blame for the sender. -/
  | ignore
  | reject
  deriving DecidableEq

def Verdict.name : Verdict → String
  | accept => "accept"
  | ignore => "ignore"
  | reject => "reject"

namespace Registry

inductive Family where
  | published
  | publishFailures
  | subscribeFailures
  | inbound
  | publishRequests
  | attestationSubnets
  deriving DecidableEq

structure Series where
  family : Family
  labels : List String
  deriving DecidableEq

namespace Series

def published (c : MessageClass) : Series := ⟨.published, [c.name]⟩

def publishFailures (c : MessageClass) : Series := ⟨.publishFailures, [c.name]⟩

def subscribeFailures (c : MessageClass) : Series := ⟨.subscribeFailures, [c.name]⟩

def inbound (c : MessageClass) (v : Verdict) : Series := ⟨.inbound, [c.name, v.name]⟩

def publishRequests (c : MessageClass) : Series := ⟨.publishRequests, [c.name]⟩

def attestationSubnets (d : ForkDigest) : Series := ⟨.attestationSubnets, [d.toString]⟩

end Series

end Registry

/-- Values of the series in order of first use. -/
abbrev Registry := List (Registry.Series × Int)

namespace Registry

def value (r : Registry) (s : Series) : Int := (r.lookup s).getD 0

/-- Changes the value of a series, which starts from zero. -/
def add (r : Registry) (s : Series) (amount : Int) : Registry :=
  match r with
  | [] => [(s, amount)]
  | (s', v) :: rest => if s' = s then (s', v + amount) :: rest else (s', v) :: add rest s amount

/-- Makes the series exist. -/
def touch (r : Registry) (s : Series) : Registry := r.add s 0

def increment (r : Registry) (s : Series) : Registry := r.add s 1

def decrement (r : Registry) (s : Series) : Registry := r.add s (-1)

theorem value_add (r : Registry) (s t : Series) (amount : Int) :
    (r.add s amount).value t = r.value t + if s = t then amount else 0 := by
  induction r with
  | nil =>
    by_cases h : s = t
    · subst h; simp [add, value]
    · simp [add, value, List.lookup_cons, h, beq_eq_false_iff_ne.2 (Ne.symm h)]
  | cons entry rest ih =>
    obtain ⟨s', v⟩ := entry
    simp only [value] at ih
    rw [add]
    by_cases hs : s' = s
    · subst hs
      by_cases ht : t = s'
      · subst ht; simp [value]
      · simp [value, List.lookup_cons, beq_eq_false_iff_ne.2 ht, Ne.symm ht]
    · by_cases ht : t = s'
      · subst ht; simp [value, hs, Ne.symm hs]
      · simp [value, List.lookup_cons, hs, beq_eq_false_iff_ne.2 ht, ih]

/-- Entries of the later registry that the earlier one does not hold with the same value. -/
def changes (earlier later : Registry) : Registry :=
  later.filter fun (s, v) => earlier.lookup s ≠ some v

end Registry

end BeaconGossip
