import BeaconGossip.Dump

namespace BeaconGossip

namespace Dump

/-- The clock reading in a file's name. -/
def millisOf (name : List Char) : Nat := Nat.ofDigitChars 10 (name.takeWhile (· ≠ '_')) 0

/-- The sequence number in a file's name. -/
def sequenceOf (name : List Char) : Nat :=
  Nat.ofDigitChars 10 ((dropMillis name).takeWhile (· ≠ '_')) 0

variable {millis millis' sequence sequence' : Nat} {reason reason' : String}
  {digits rest : List Char}

theorem ne_underscore_of_isDigit {c : Char} (h : c.isDigit = true) : (c ≠ '_' : Bool) = true := by
  refine decide_eq_true ?_
  rintro rfl
  exact Bool.noConfusion h

theorem takeWhile_digits (h : ∀ c ∈ digits, c.isDigit = true) :
    (digits ++ '_' :: rest).takeWhile (· ≠ '_') = digits := by
  rw [List.takeWhile_append_of_pos fun c hc => ne_underscore_of_isDigit (h c hc)]
  simp

theorem dropWhile_digits (h : ∀ c ∈ digits, c.isDigit = true) :
    (digits ++ '_' :: rest).dropWhile (· ≠ '_') = '_' :: rest := by
  rw [List.dropWhile_append_of_pos fun c hc => ne_underscore_of_isDigit (h c hc)]
  simp

theorem isDigit_write (n : Nat) : ∀ c ∈ Text.Decimal.write n, c.isDigit = true :=
  fun _ hc => Nat.isDigit_of_mem_toDigits (by decide) (by decide) hc

theorem isDigit_sequenceDigits (sequence : Nat) :
    ∀ c ∈ sequenceDigits sequence, c.isDigit = true := by
  intro c hc
  rcases List.mem_append.1 hc with hc | hc
  · rw [List.eq_of_mem_replicate hc]
    rfl
  · exact isDigit_write sequence c hc

theorem six_le_length_sequenceDigits (sequence : Nat) : 6 ≤ (sequenceDigits sequence).length := by
  rw [sequenceDigits, List.length_append, List.length_replicate]
  omega

theorem ofDigitChars_replicate_zero (n : Nat) (digits : List Char) :
    Nat.ofDigitChars 10 (List.replicate n '0' ++ digits) 0 = Nat.ofDigitChars 10 digits 0 := by
  induction n with
  | zero => rfl
  | succ n ih =>
    rw [List.replicate_succ, List.cons_append, Nat.ofDigitChars_cons]
    exact ih

/-- The zeros in front do not change the number. -/
theorem ofDigitChars_sequenceDigits (sequence : Nat) :
    Nat.ofDigitChars 10 (sequenceDigits sequence) 0 = sequence := by
  rw [sequenceDigits, ofDigitChars_replicate_zero]
  exact Nat.ofDigitChars_ten_toDigits

@[simp]
theorem dropMillis_fileName :
    dropMillis (fileName millis sequence reason) = shortName sequence reason := by
  rw [dropMillis, fileName, dropWhile_digits (isDigit_write millis)]
  rfl

@[simp]
theorem millisOf_fileName : millisOf (fileName millis sequence reason) = millis := by
  rw [millisOf, fileName, takeWhile_digits (isDigit_write millis)]
  exact Nat.ofDigitChars_ten_toDigits

@[simp]
theorem sequenceOf_fileName : sequenceOf (fileName millis sequence reason) = sequence := by
  have name : shortName sequence reason =
      sequenceDigits sequence ++ '_' :: (tag reason ++ ".bin".toList) :=
    List.append_assoc _ _ _
  rw [sequenceOf, dropMillis_fileName, name, takeWhile_digits (isDigit_sequenceDigits sequence)]
  exact ofDigitChars_sequenceDigits sequence

theorem sequence_inj (h : fileName millis sequence reason = fileName millis' sequence' reason') :
    sequence = sequence' := by
  have read := congrArg sequenceOf h
  rwa [sequenceOf_fileName, sequenceOf_fileName] at read

end Dump

end BeaconGossip
