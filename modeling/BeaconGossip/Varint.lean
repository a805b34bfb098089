import BeaconGossip.Octets

namespace BeaconGossip.Varint

inductive Fault where
  /-- The bytes end inside the number. -/
  | unfinished
  | tooLong
  deriving DecidableEq

/-- Takes the bytes of a number off the front, of which there are at most `count`. -/
def take : (count : Nat) → Bytes → Except Fault (Bytes × Bytes)
  | 0, _ => .error .tooLong
  | _ + 1, [] => .error .unfinished
  | count + 1, b :: rest =>
    if b.toNat < 128 then .ok ([b], rest)
    else
      match take count rest with
      | .error e => .error e
      | .ok (digits, rest) => .ok (b :: digits, rest)

theorem length_of_take {count : Nat} {bytes digits rest : Bytes}
    (h : take count bytes = .ok (digits, rest)) : rest.length < bytes.length := by
  induction count generalizing bytes digits with
  | zero => simp [take] at h
  | succ count ih =>
    cases bytes with
    | nil => simp [take] at h
    | cons b bytes =>
      rw [take] at h
      split at h
      · simp only [Except.ok.injEq, Prod.mk.injEq] at h
        simp [h.2]
      · split at h
        · simp at h
        · rename_i ht
          simp only [Except.ok.injEq, Prod.mk.injEq] at h
          obtain ⟨-, rfl⟩ := h
          exact Nat.lt_succ_of_lt (ih ht)

def digitLimit : Nat := 10

def value : Bytes → Nat
  | [] => 0
  | b :: rest => b.toNat % 128 + 128 * value rest

/-- Whether a number of several bytes ends in one that adds nothing to it. -/
def isPadded (digits : Bytes) : Bool := 1 < digits.length && digits.getLast? = some 0

/-- Number of bytes that a number takes. -/
def length (n : Nat) : Nat := Nat.log2 n / 7 + 1

end BeaconGossip.Varint
