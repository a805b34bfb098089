import BeaconGossip.Proofs.Hex

namespace BeaconGossip.Hex

open Text Utf8

/-- The one byte of a digit. -/
def DigitByte (b : UInt8) : Prop :=
  ∃ c value, Digit c value ∧ String.utf8EncodeChar c = [b]

/-- The first byte that is no digit, and how many digits there are before it. -/
def FirstBad (digits : Bytes) (found : UInt8) (position : Nat) : Prop :=
  ∃ before after, digits = before ++ found :: after ∧ before.length = position ∧
    (∀ b ∈ before, DigitByte b) ∧ ¬ DigitByte found

/-- Why there are no `n` bytes that have these digits. Of several reasons the first counts. -/
def Refused (n : Nat) (digits : Bytes) : HexError → Prop
  | .oddLength => digits.length % 2 = 1
  | .wrongLength => digits.length % 2 ≠ 1 ∧ digits.length ≠ 2 * n
  | .badCharacter found position => digits.length = 2 * n ∧ FirstBad digits found position

/-- What is left of a field without its marks. -/
def digitsOf (text : String) : Bytes := encode (stripMarks text.toList)

variable {n position i : Nat} {b found hi lo : UInt8} {digits bytes : Bytes} {e : HexError}

theorem digitByte_iff : DigitByte b ↔ ∃ value, digit? b = some value := by
  constructor
  · rintro ⟨c, value, hd, hc⟩
    obtain ⟨byte, read⟩ := hd.byte
    rw [byte, List.cons.injEq] at hc
    rw [hc.1] at read
    exact ⟨value, read⟩
  · rintro ⟨value, read⟩
    have plain : ∀ n < 103, String.utf8EncodeChar (Char.ofNat n) = [UInt8.ofNat n] := by decide
    have byte := plain b.toNat (lt_of_digit? read)
    rw [UInt8.ofNat_toNat] at byte
    exact ⟨_, value, (digit_of_byte byte read).1, byte⟩

theorem digit?_eq_none_iff : digit? b = none ↔ ¬ DigitByte b := by
  rw [digitByte_iff]
  cases digit? b <;> simp

theorem firstBad_cons_of_bad (bad : ¬ DigitByte b) :
    FirstBad (b :: digits) found i ↔ found = b ∧ i = 0 := by
  constructor
  · rintro ⟨before, after, h, rfl, good, -⟩
    cases before with
    | nil => exact ⟨(List.cons.inj h).1.symm, rfl⟩
    | cons b' before =>
      obtain ⟨rfl, -⟩ := List.cons.inj h
      exact (bad (good b List.mem_cons_self)).elim
  · rintro ⟨rfl, rfl⟩
    exact ⟨[], digits, rfl, rfl, nofun, bad⟩

theorem firstBad_cons_of_digit (good : DigitByte b) :
    FirstBad (b :: digits) found i ↔ ∃ j, i = j + 1 ∧ FirstBad digits found j := by
  constructor
  · rintro ⟨before, after, h, rfl, hbefore, bad⟩
    cases before with
    | nil =>
      obtain ⟨rfl, -⟩ := List.cons.inj h
      exact (bad good).elim
    | cons b' before =>
      obtain ⟨-, rfl⟩ := List.cons.inj h
      exact ⟨before.length, rfl, before, after, rfl, rfl,
        fun c hc => hbefore c (List.mem_cons_of_mem b' hc), bad⟩
  · rintro ⟨j, rfl, before, after, rfl, rfl, hbefore, bad⟩
    exact ⟨b :: before, after, rfl, rfl, List.forall_mem_cons.2 ⟨good, hbefore⟩, bad⟩

theorem pairs_cons_eq_error_iff :
    pairs position (hi :: lo :: digits) = .error e ↔
      (¬ DigitByte hi ∧ e = .badCharacter hi position) ∨
        DigitByte hi ∧ ((¬ DigitByte lo ∧ e = .badCharacter lo (position + 1)) ∨
          DigitByte lo ∧ pairs (position + 2) digits = .error e) := by
  simp [pairs, bind_eq_error_iff, digitAt_eq_error_iff, digitAt_eq_ok_iff, digit?_eq_none_iff,
    digitByte_iff, pure, Except.pure]

/-- The digits are looked at in order, each at its position. -/
theorem pairs_eq_error_iff (even : digits.length % 2 = 0) :
    pairs position digits = .error e ↔
      ∃ found i, FirstBad digits found i ∧ e = .badCharacter found (position + i) := by
  fun_induction pairs position digits with
  | case1 position hi lo digits ih =>
    have heven : digits.length % 2 = 0 := by
      simp only [List.length_cons] at even
      omega
    rw [← pairs, pairs_cons_eq_error_iff, ih heven]
    by_cases hhi : DigitByte hi
    · by_cases hlo : DigitByte lo
      · have shifted (i : Nat) : position + 2 + i = position + (i + 1 + 1) := by omega
        simp only [firstBad_cons_of_digit hhi, firstBad_cons_of_digit hlo, hhi, hlo, shifted,
          not_true_eq_false, false_and, true_and, false_or]
        constructor
        · rintro ⟨found, i, first, he⟩
          exact ⟨found, _, ⟨_, rfl, i, rfl, first⟩, he⟩
        · rintro ⟨found, _, ⟨_, rfl, i, rfl, first⟩, he⟩
          exact ⟨found, i, first, he⟩
      · simp [firstBad_cons_of_digit hhi, firstBad_cons_of_bad hlo, hhi, hlo]
    · simp [firstBad_cons_of_bad hhi, hhi]
  | case2 digits position short =>
    cases digits with
    | nil => simp [FirstBad]
    | cons hi rest =>
      cases rest with
      | nil => cases even
      | cons lo rest => exact (short hi lo rest rfl).elim

theorem decode_eq_error_iff : decode n digits = .error e ↔ Refused n digits e := by
  by_cases odd : digits.length % 2 = 1
  · have other : digits.length ≠ 2 * n := by omega
    rw [decode, if_pos odd]
    cases e <;> simp [Refused, odd, other]
  by_cases whole : digits.length = 2 * n
  · have even : digits.length % 2 = 0 := by omega
    have failed : decode n digits = .error e ↔ pairs 0 digits = .error e := by
      rw [decode, if_neg odd, dif_pos whole]
      split <;> simp_all
    rw [failed, pairs_eq_error_iff even]
    cases e <;> simp [Refused, whole]
  · rw [decode, if_neg odd, dif_neg whole]
    cases e <;> simp [Refused, odd, whole]

theorem read_eq_error_iff {text : String} : read n text = .error e ↔ Refused n (digitsOf text) e :=
  decode_eq_error_iff

theorem stripMarks_unmarked (text : List Char) : ¬ ['0', 'x'] <+: stripMarks text := by
  fun_induction stripMarks text with
  | case1 rest ih => exact ih
  | case2 text unmarked =>
    rintro ⟨rest, rfl⟩
    exact unmarked rest rfl

theorem Digit.lower {c : Char} {value : Nat} (h : Digit c value) :
    value < 16 ∧ lowerHexDigit value = c.toLower := by
  rcases h with h | h
  all_goals
    obtain ⟨hv, rfl⟩ := List.getElem?_eq_some_iff.1 h
    clear h
    revert value
    decide

/-- Digits that are read and written again are in lower case. -/
theorem Spells.write {text : List Char} (h : Spells text bytes) :
    write bytes = text.map Char.toLower := by
  induction h with
  | nil => rfl
  | @cons hi lo x y text bytes high low rest ih =>
    obtain ⟨hx, upper⟩ := high.lower
    obtain ⟨hy, lower⟩ := low.lower
    have value : (UInt8.ofNat (16 * x + y)).toNat = 16 * x + y := by
      rw [UInt8.toNat_ofNat']
      omega
    have quotient : (16 * x + y) / 16 = x := by omega
    have remainder : (16 * x + y) % 16 = y := by omega
    rw [Hex.write, List.flatMap_cons, ← Hex.write, ih, value, quotient, remainder, upper, lower]
    rfl

theorem Written.spells {text : List Char} (h : Written text bytes) :
    Spells (stripMarks text) bytes := by
  obtain ⟨n, rest, rfl, hs⟩ := h
  rw [hs.stripMarks]
  exact hs

end BeaconGossip.Hex
