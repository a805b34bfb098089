import BeaconGossip.Varint

namespace BeaconGossip.Identity

/-- How the content of a field is written. -/
inductive FieldForm where
  | number
  | eightBytes
  /-- A length, and as many bytes. -/
  | counted
  /-- Opens a group, the fields of which follow. -/
  | opening
  /-- Closes a group. -/
  | closing
  | fourBytes
  deriving DecidableEq

def FieldForm.ofCode? : Nat → Option FieldForm
  | 0 => some .number
  | 1 => some .eightBytes
  | 2 => some .counted
  | 3 => some .opening
  | 4 => some .closing
  | 5 => some .fourBytes
  | _ => none

structure FieldMark where
  tag : Nat
  form : FieldForm

/-- The form is in the lowest three bits of a number of 32 bits, the tag in those above. No tag is
zero. -/
def FieldMark.ofNumber? (n : Nat) : Option FieldMark :=
  if n < UInt32.size ∧ 8 ≤ n then (FieldForm.ofCode? (n % 8)).map fun form => ⟨n / 8, form⟩
  else none

namespace TaggedField

def dropExact (n : Nat) (bytes : Bytes) : Option Bytes :=
  if n ≤ bytes.length then some (bytes.drop n) else none

/-- A number of 64 bits. -/
def readNumber (bytes : Bytes) : Option (Nat × Bytes) :=
  match Varint.take Varint.digitLimit bytes with
  | .error _ => none
  | .ok (digits, rest) =>
    if Varint.value digits < UInt64.size then some (Varint.value digits, rest) else none

def readMark (bytes : Bytes) : Option (FieldMark × Bytes) :=
  match readNumber bytes with
  | none => none
  | some (n, rest) => (FieldMark.ofNumber? n).map fun mark => (mark, rest)

def readCounted (bytes : Bytes) : Option (Bytes × Bytes) :=
  match readNumber bytes with
  | none => none
  | some (n, rest) => (dropExact n rest).map fun left => (rest.take n, left)

/-- Passes over the content of a field that is no group. -/
def skip (form : FieldForm) (bytes : Bytes) : Option Bytes :=
  match form with
  | .number => (readNumber bytes).map (·.2)
  | .eightBytes => dropExact 8 bytes
  | .counted => (readCounted bytes).map (·.2)
  | .opening | .closing => none
  | .fourBytes => dropExact 4 bytes

theorem length_of_readNumber {bytes rest : Bytes} {n : Nat}
    (h : readNumber bytes = some (n, rest)) : rest.length < bytes.length := by
  unfold readNumber at h
  split at h
  · simp at h
  · rename_i ht
    split at h
    · simp only [Option.some.injEq, Prod.mk.injEq] at h
      exact h.2 ▸ Varint.length_of_take ht
    · simp at h

theorem length_of_readMark {bytes rest : Bytes} {mark : FieldMark}
    (h : readMark bytes = some (mark, rest)) : rest.length < bytes.length := by
  unfold readMark at h
  split at h
  · simp at h
  · rename_i hn
    obtain ⟨_, _, he⟩ := Option.map_eq_some_iff.1 h
    simp only [Prod.mk.injEq] at he
    exact he.2 ▸ length_of_readNumber hn

theorem length_of_dropExact {n : Nat} {bytes rest : Bytes} (h : dropExact n bytes = some rest) :
    rest.length ≤ bytes.length := by
  unfold dropExact at h
  split at h
  · simp only [Option.some.injEq] at h
    simp [← h]
  · simp at h

theorem length_of_readCounted {bytes content rest : Bytes}
    (h : readCounted bytes = some (content, rest)) : rest.length < bytes.length := by
  unfold readCounted at h
  split at h
  · simp at h
  · rename_i hn
    obtain ⟨_, hd, he⟩ := Option.map_eq_some_iff.1 h
    simp only [Prod.mk.injEq] at he
    obtain ⟨-, rfl⟩ := he
    exact Nat.lt_of_le_of_lt (length_of_dropExact hd) (length_of_readNumber hn)

theorem length_of_skip {form : FieldForm} {bytes rest : Bytes} (h : skip form bytes = some rest) :
    rest.length ≤ bytes.length := by
  cases form with
  | number =>
    obtain ⟨⟨_, _⟩, hn, rfl⟩ := Option.map_eq_some_iff.1 h
    exact Nat.le_of_lt (length_of_readNumber hn)
  | counted =>
    obtain ⟨⟨_, _⟩, hn, rfl⟩ := Option.map_eq_some_iff.1 h
    exact Nat.le_of_lt (length_of_readCounted hn)
  | eightBytes | fourBytes => exact length_of_dropExact h
  | opening | closing => simp [skip] at h

end TaggedField

end BeaconGossip.Identity
