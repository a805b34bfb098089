import BeaconGossip.Hex
import Mathlib.Data.List.Basic

namespace BeaconGossip

section Bind

variable {ε α β : Type} {x : Except ε α} {f : α → Except ε β}

theorem bind_eq_ok_iff {b : β} : (x >>= f) = .ok b ↔ ∃ a, x = .ok a ∧ f a = .ok b := by
  cases x <;> simp [bind, Except.bind]

theorem bind_eq_error_iff {e : ε} :
    (x >>= f) = .error e ↔ x = .error e ∨ ∃ a, x = .ok a ∧ f a = .error e := by
  cases x <;> simp [bind, Except.bind]

end Bind

namespace Hex

open Text Utf8

/-- The digit of the value, in either case. -/
def Digit (c : Char) (value : Nat) : Prop :=
  "0123456789abcdef".toList[value]? = some c ∨ "0123456789ABCDEF".toList[value]? = some c

instance (c : Char) (value : Nat) : Decidable (Digit c value) :=
  inferInstanceAs (Decidable (_ ∨ _))

/-- The digits of the bytes, the higher half of each first. -/
inductive Spells : List Char → Bytes → Prop where
  | nil : Spells [] []
  | cons {hi lo : Char} {h l : Nat} {digits : List Char} {bytes : Bytes} (high : Digit hi h)
    (low : Digit lo l) (rest : Spells digits bytes) :
    Spells (hi :: lo :: digits) (UInt8.ofNat (16 * h + l) :: bytes)

def marks (n : Nat) : List Char := (List.replicate n ['0', 'x']).flatten

/-- A field as it may be written. -/
def Written (text : List Char) (bytes : Bytes) : Prop :=
  ∃ n digits, text = marks n ++ digits ∧ Spells digits bytes

section Digits

variable {c : Char} {value : Nat} {b : UInt8} {rest : Bytes}

theorem Digit.byte (h : Digit c value) :
    String.utf8EncodeChar c = [UInt8.ofNat c.toNat] ∧
      digit? (UInt8.ofNat c.toNat) = some value := by
  rcases h with h | h
  all_goals
    obtain ⟨hv, rfl⟩ := List.getElem?_eq_some_iff.1 h
    clear h
    revert value
    decide

theorem Digit.ne_slash (h : Digit c value) : c ≠ '/' := by
  rintro rfl
  cases h.byte.2

theorem Digit.ne_x (h : Digit c value) : c ≠ 'x' := by
  rintro rfl
  cases h.byte.2

theorem lt_of_digit? (h : digit? b = some value) : b.toNat < 103 := by
  apply Nat.lt_of_not_le
  intro hb
  rw [digit?, if_neg (by omega), if_neg (by omega), if_neg (by omega)] at h
  cases h

/-- All other characters begin with a byte that is no digit. -/
theorem le_of_utf8EncodeChar (hc : String.utf8EncodeChar c = b :: rest) (large : 128 ≤ c.toNat) :
    192 ≤ b.toNat := by
  have hval : ¬ c.val.toNat ≤ 127 := Nat.not_le.2 large
  rw [String.utf8EncodeChar, if_neg hval] at hc
  split at hc
  · cases hc
    rw [UInt8.toNat_ofNat']
    omega
  · split at hc <;> cases hc <;> rw [UInt8.toNat_ofNat'] <;> omega

theorem digit_of_byte (hc : String.utf8EncodeChar c = b :: rest) (hb : digit? b = some value) :
    Digit c value ∧ rest = [] := by
  have plain : ∀ n < 128, ∀ v ∈ digit? (UInt8.ofNat n), Digit (Char.ofNat n) v := by decide
  have small : c.toNat < 128 := by
    apply Nat.lt_of_not_le
    intro large
    have hlt := lt_of_digit? hb
    have hle := le_of_utf8EncodeChar hc large
    omega
  have he : String.utf8EncodeChar c = [UInt8.ofNat c.toNat] := if_pos (Nat.le_of_lt_succ small)
  rw [he, List.cons.injEq] at hc
  obtain ⟨rfl, rfl⟩ := hc
  have hd := plain _ small _ hb
  rw [Char.ofNat_toNat] at hd
  exact ⟨hd, rfl⟩

/-- A text whose bytes begin with a digit begins with that digit. -/
theorem cons_of_encode {text : List Char} (ht : encode text = b :: rest)
    (hb : digit? b = some value) :
    ∃ c text', text = c :: text' ∧ Digit c value ∧ encode text' = rest := by
  cases text with
  | nil => cases ht
  | cons c text' =>
    rw [encode, List.flatMap_cons, ← encode] at ht
    cases hc : String.utf8EncodeChar c with
    | nil => exact (String.utf8EncodeChar_ne_nil hc).elim
    | cons b' rest' =>
      rw [hc, List.cons_append, List.cons.injEq] at ht
      obtain ⟨rfl, hrest⟩ := ht
      obtain ⟨hd, rfl⟩ := digit_of_byte hc hb
      exact ⟨c, text', rfl, hd, hrest⟩

end Digits

section Pairs

variable {position : Nat} {b hi lo : UInt8} {digits bytes : Bytes} {text : List Char}

theorem digitAt_eq_ok_iff {value : Nat} :
    digitAt b position = .ok value ↔ digit? b = some value := by
  rw [digitAt]
  cases digit? b <;> simp

theorem digitAt_eq_error_iff {e : HexError} :
    digitAt b position = .error e ↔ digit? b = none ∧ e = .badCharacter b position := by
  rw [digitAt]
  cases digit? b <;> simp [eq_comm]

theorem pairs_cons_eq_ok_iff :
    pairs position (hi :: lo :: digits) = .ok bytes ↔
      ∃ h l rest, digit? hi = some h ∧ digit? lo = some l ∧
        pairs (position + 2) digits = .ok rest ∧ bytes = UInt8.ofNat (16 * h + l) :: rest := by
  simp only [pairs, bind_eq_ok_iff, digitAt_eq_ok_iff]
  constructor
  · rintro ⟨h, hhi, l, hlo, rest, hrest, ⟨⟩⟩
    exact ⟨h, l, rest, hhi, hlo, hrest, rfl⟩
  · rintro ⟨h, l, rest, hhi, hlo, hrest, rfl⟩
    exact ⟨h, hhi, l, hlo, rest, hrest, rfl⟩

theorem spells_of_pairs (h : pairs position digits = .ok bytes) (even : digits.length % 2 = 0)
    (ht : encode text = digits) : Spells text bytes := by
  fun_induction pairs position digits generalizing text bytes with
  | case1 position hi lo digits ih =>
    rw [← pairs] at h
    obtain ⟨x, y, rest, hx, hy, hrest, rfl⟩ := pairs_cons_eq_ok_iff.1 h
    obtain ⟨c, text', rfl, hc, ht'⟩ := cons_of_encode ht hx
    obtain ⟨d, text'', rfl, hd, ht''⟩ := cons_of_encode ht' hy
    have heven : digits.length % 2 = 0 := by
      simp only [List.length_cons] at even
      omega
    exact .cons hc hd (ih hrest heven ht'')
  | case2 digits position short =>
    cases h
    match digits with
    | [] =>
      cases text with
      | nil => exact .nil
      | cons c text => exact (String.utf8EncodeChar_ne_nil (List.append_eq_nil_iff.1 ht).1).elim
    | [_] => cases even
    | hi :: lo :: rest => exact (short hi lo rest rfl).elim

theorem Spells.pairs (h : Spells text bytes) (position : Nat) :
    pairs position (encode text) = .ok bytes ∧ (encode text).length = 2 * bytes.length := by
  induction h generalizing position with
  | nil => exact ⟨rfl, rfl⟩
  | @cons hi lo x y text bytes high low rest ih =>
    obtain ⟨hhi, hx⟩ := high.byte
    obtain ⟨hlo, hy⟩ := low.byte
    obtain ⟨hp, hl⟩ := ih (position + 2)
    have he : encode (hi :: lo :: text) =
        UInt8.ofNat hi.toNat :: UInt8.ofNat lo.toNat :: encode text := by
      rw [encode, List.flatMap_cons, List.flatMap_cons, hhi, hlo]
      rfl
    rw [he]
    refine ⟨pairs_cons_eq_ok_iff.2 ⟨x, y, bytes, hx, hy, hp, rfl⟩, ?_⟩
    simp only [List.length_cons, hl]
    omega

theorem Spells.length (h : Spells text bytes) : text.length = 2 * bytes.length := by
  induction h with
  | nil => rfl
  | cons _ _ _ ih =>
    simp only [List.length_cons, ih]
    omega

theorem Spells.digit (h : Spells text bytes) {c : Char} (hc : c ∈ text) : ∃ v, Digit c v := by
  induction h with
  | nil => cases hc
  | @cons hi lo x y _ _ high low _ ih =>
    rcases List.mem_cons.1 hc with rfl | hc
    · exact ⟨x, high⟩
    · rcases List.mem_cons.1 hc with rfl | hc
      · exact ⟨y, low⟩
      · exact ih hc

end Pairs

section Marks

variable {n : Nat} {text digits : List Char} {bytes : Bytes}

theorem exists_stripMarks (text : List Char) : ∃ n, text = marks n ++ stripMarks text := by
  fun_induction stripMarks text with
  | case1 rest ih =>
    obtain ⟨n, hn⟩ := ih
    exact ⟨n + 1, congrArg (fun t => '0' :: 'x' :: t) hn⟩
  | case2 text => exact ⟨0, rfl⟩

theorem Spells.stripMarks (h : Spells digits bytes) (n : Nat) :
    stripMarks (marks n ++ digits) = digits := by
  induction n with
  | zero =>
    rw [marks, List.replicate_zero, List.flatten_nil, List.nil_append]
    cases h with
    | nil => rfl
    | cons _ low _ =>
      rw [Hex.stripMarks]
      rintro _ ⟨⟩
      exact low.ne_x rfl
  | succ n ih => exact ih

end Marks

theorem decode_eq_ok_iff {n : Nat} {digits : Bytes} {o : Octets n} :
    decode n digits = .ok o ↔ digits.length = 2 * n ∧ pairs 0 digits = .ok o.1 := by
  by_cases hn : digits.length = 2 * n
  · rw [decode, if_neg (by omega), dif_pos hn, and_iff_right hn]
    split
    · rename_i e he
      simp [he]
    · rename_i bytes hb
      simp [hb, Subtype.ext_iff]
  · rw [decode, dif_neg hn]
    split <;> simp [hn]

/-- A field is read exactly if it is written as the digits of its bytes, after any marks. -/
theorem read_eq_ok_iff {n : Nat} {text : String} {o : Octets n} :
    read n text = .ok o ↔ Written text.toList o.1 := by
  rw [read, decode_eq_ok_iff]
  constructor
  · rintro ⟨hlength, hpairs⟩
    obtain ⟨marks, ht⟩ := exists_stripMarks text.toList
    have even : (encode (stripMarks text.toList)).length % 2 = 0 := by omega
    exact ⟨marks, _, ht, spells_of_pairs hpairs even rfl⟩
  · rintro ⟨marks, digits, ht, hs⟩
    obtain ⟨hpairs, hlength⟩ := hs.pairs 0
    rw [ht, hs.stripMarks, hlength, o.2]
    exact ⟨rfl, hpairs⟩

theorem Written.slash_not_mem {text : List Char} {bytes : Bytes} (h : Written text bytes) :
    '/' ∉ text := by
  obtain ⟨n, digits, rfl, hs⟩ := h
  intro hm
  rcases List.mem_append.1 hm with hm | hm
  · obtain ⟨mark, hmark, hm⟩ := List.mem_flatten.1 hm
    rw [List.eq_of_mem_replicate hmark] at hm
    revert hm
    decide
  · obtain ⟨v, hd⟩ := hs.digit hm
    exact hd.ne_slash rfl

theorem spells_write (bytes : Bytes) : Spells (write bytes) bytes := by
  have digit : ∀ v < 16, Digit (lowerHexDigit v) v := by decide
  induction bytes with
  | nil => exact .nil
  | cons b bytes ih =>
    have hb := b.toNat_lt
    have h := Spells.cons (digit (b.toNat / 16) (by omega)) (digit (b.toNat % 16) (by omega)) ih
    rw [Nat.div_add_mod, UInt8.ofNat_toNat] at h
    exact h

theorem written_toString (bytes : Bytes) : Written (toString bytes).toList bytes :=
  ⟨0, write bytes, String.toList_ofList, spells_write bytes⟩

end Hex

end BeaconGossip
