import BeaconGossip.Wire

namespace BeaconGossip.Codec

variable {α β : Type}

/-- A value is read from just those inputs that begin with what is written for it, provided that it
fits: its lists are not too long to be counted. Whatever is written in fewer bytes does fit. -/
structure Exact (c : Codec α) (fits : α → Prop) : Prop where
  read_eq_ok_iff : ∀ bs x rest, c.read bs = .ok (x, rest) ↔ fits x ∧ bs = c.write x ++ rest
  fits_of_short : ∀ x, (c.write x).length < UInt64.size → fits x

/-- A value takes up at least one byte. -/
def Consumes (c : Codec α) : Prop :=
  ∀ bs x rest, c.read bs = .ok (x, rest) → rest.length < bs.length

theorem exact_octets (n : Nat) : (octets n).Exact fun _ => True := by
  refine ⟨?_, fun _ _ => trivial⟩
  intro bs o rest
  simp only [octets, true_and]
  constructor
  · intro h
    split at h
    · rename_i o' rest' hs
      simp only [Except.ok.injEq, Prod.mk.injEq] at h
      obtain ⟨rfl, rfl⟩ := h
      exact Bytes.eq_append_of_splitExact hs
    · cases h
  · rintro rfl
    rw [Bytes.splitExact_append]

theorem exact_byte : byte.Exact fun _ => True := by
  refine ⟨?_, fun _ _ => trivial⟩
  intro bs b rest
  cases bs <;> simp [byte]

theorem exact_bool : bool.Exact fun _ => True := by
  refine ⟨?_, fun _ _ => trivial⟩
  intro bs b rest
  simp only [bool, true_and]
  cases bs with
  | nil => simp
  | cons x bs =>
    by_cases h0 : x = 0
    · subst h0
      cases b <;> simp
    · by_cases h1 : x = 1
      · subst h1
        cases b <;> simp
      · cases b <;> simp [h0, h1]

theorem Exact.pair {a : Codec α} {b : Codec β} {fa : α → Prop} {fb : β → Prop} (ha : a.Exact fa)
    (hb : b.Exact fb) : (a.pair b).Exact fun v => fa v.1 ∧ fb v.2 := by
  refine ⟨?_, ?_⟩
  · rintro bs ⟨x, y⟩ rest
    simp only [Codec.pair]
    constructor
    · intro h
      split at h
      · cases h
      · rename_i x' middle hx
        split at h
        · cases h
        · rename_i y' rest' hy
          simp only [Except.ok.injEq, Prod.mk.injEq] at h
          obtain ⟨⟨rfl, rfl⟩, rfl⟩ := h
          obtain ⟨hfx, rfl⟩ := (ha.read_eq_ok_iff _ _ _).1 hx
          obtain ⟨hfy, rfl⟩ := (hb.read_eq_ok_iff _ _ _).1 hy
          exact ⟨⟨hfx, hfy⟩, (List.append_assoc ..).symm⟩
    · rintro ⟨⟨hfx, hfy⟩, rfl⟩
      have hx := (ha.read_eq_ok_iff _ _ _).2 ⟨hfx, List.append_assoc (a.write x) (b.write y) rest⟩
      have hy := (hb.read_eq_ok_iff _ _ rest).2 ⟨hfy, rfl⟩
      simp only [hx, hy]
  · rintro ⟨x, y⟩ h
    simp only [Codec.pair, List.length_append] at h
    exact ⟨ha.fits_of_short x (by omega), hb.fits_of_short y (by omega)⟩

theorem Exact.map {c : Codec α} {fits : α → Prop} (h : c.Exact fits) {forth : α → β} {back : β → α}
    (back_forth : ∀ x, back (forth x) = x) (forth_back : ∀ y, forth (back y) = y)
    {fits' : β → Prop} (fits_iff : ∀ y, fits' y ↔ fits (back y)) :
    (c.map forth back).Exact fits' := by
  refine ⟨?_, fun y hy => (fits_iff y).2 (h.fits_of_short _ hy)⟩
  intro bs y rest
  simp only [Codec.map, fits_iff, ← h.read_eq_ok_iff]
  constructor
  · intro hr
    split at hr
    · cases hr
    · rename_i x rest' hx
      simp only [Except.ok.injEq, Prod.mk.injEq] at hr
      obtain ⟨rfl, rfl⟩ := hr
      rw [hx, back_forth]
  · intro hr
    rw [hr]
    simp only [forth_back]

theorem exact_word : word.Exact fun _ => True := by
  refine (exact_octets 8).map ?_ ?_ fun _ => Iff.rfl
  · rintro ⟨bs, h⟩
    have hlt := Bytes.ofLittleEndian_lt bs
    rw [h] at hlt
    have hn : (UInt64.ofNat (Bytes.ofLittleEndian bs)).toNat = Bytes.ofLittleEndian bs :=
      UInt64.toNat_ofNat_of_lt' hlt
    apply Subtype.ext
    simp only [hn]
    rw [← h]
    exact Bytes.littleEndian_ofLittleEndian bs
  · intro w
    simp only [Bytes.ofLittleEndian_littleEndian]
    rw [Nat.mod_eq_of_lt w.toNat_lt, UInt64.ofNat_toNat]

theorem consumes_of_write {c : Codec α} {fits : α → Prop} (h : c.Exact fits)
    (write : ∀ x, 0 < (c.write x).length) : c.Consumes := by
  intro bs x rest hr
  obtain ⟨_, rfl⟩ := (h.read_eq_ok_iff _ _ _).1 hr
  have hx := write x
  rw [List.length_append]
  omega

theorem consumes_byte : byte.Consumes := consumes_of_write exact_byte fun _ => Nat.one_pos

theorem consumes_bool : bool.Consumes := consumes_of_write exact_bool fun _ => Nat.one_pos

theorem length_write_word (w : UInt64) : (word.write w).length = 8 :=
  (Bytes.littleEndian 8 w.toNat).2

theorem consumes_word : word.Consumes := by
  apply consumes_of_write exact_word
  intro w
  rw [length_write_word]
  decide

theorem readMany_eq_ok_iff {c : Codec α} (h : c.Exact fun _ => True) (n : Nat) (bs : Bytes)
    (xs : List α) (rest : Bytes) :
    c.readMany n bs = .ok (xs, rest) ↔ xs.length = n ∧ bs = xs.flatMap c.write ++ rest := by
  induction n generalizing bs xs with
  | zero =>
    simp only [readMany, Except.ok.injEq, Prod.mk.injEq, List.length_eq_zero_iff]
    constructor
    · rintro ⟨rfl, rfl⟩
      exact ⟨rfl, rfl⟩
    · rintro ⟨rfl, rfl⟩
      exact ⟨rfl, rfl⟩
  | succ n ih =>
    rw [readMany]
    constructor
    · intro hr
      split at hr
      · cases hr
      · rename_i x middle hx
        split at hr
        · cases hr
        · rename_i xs' rest' hxs
          simp only [Except.ok.injEq, Prod.mk.injEq] at hr
          obtain ⟨rfl, rfl⟩ := hr
          obtain ⟨_, rfl⟩ := (h.read_eq_ok_iff _ _ _).1 hx
          obtain ⟨hlen, rfl⟩ := (ih _ _).1 hxs
          exact ⟨congrArg (· + 1) hlen, (List.append_assoc ..).symm⟩
    · rintro ⟨hlen, rfl⟩
      cases xs with
      | nil => cases hlen
      | cons x xs =>
        have hx := (h.read_eq_ok_iff _ x (xs.flatMap c.write ++ rest)).2 ⟨trivial, rfl⟩
        have hxs := (ih _ xs).2 ⟨Nat.succ.inj hlen, rfl⟩
        rw [List.flatMap_cons, List.append_assoc, hx]
        simp only [hxs]

theorem length_le_flatMap {c : Codec α} (h : c.Exact fun _ => True) (consumes : c.Consumes)
    (xs : List α) : xs.length ≤ (xs.flatMap c.write).length := by
  induction xs with
  | nil => exact Nat.le_refl 0
  | cons x xs ih =>
    have hx := consumes _ _ _ ((h.read_eq_ok_iff (c.write x) x []).2 ⟨trivial, by simp⟩)
    rw [List.flatMap_cons, List.length_cons, List.length_append]
    rw [List.length_nil] at hx
    omega

theorem Exact.list {c : Codec α} (h : c.Exact fun _ => True) (consumes : c.Consumes) :
    c.list.Exact fun xs => xs.length < UInt64.size := by
  refine ⟨?_, ?_⟩
  · intro bs xs rest
    simp only [Codec.list]
    constructor
    · intro hr
      split at hr
      · cases hr
      · rename_i n middle hn
        obtain ⟨_, rfl⟩ := (exact_word.read_eq_ok_iff _ _ _).1 hn
        obtain ⟨hlen, rfl⟩ := (readMany_eq_ok_iff h _ _ _ _).1 hr
        rw [hlen, UInt64.ofNat_toNat, List.append_assoc]
        exact ⟨n.toNat_lt, rfl⟩
    · rintro ⟨hlen, rfl⟩
      have hn := (exact_word.read_eq_ok_iff _ (UInt64.ofNat xs.length)
        (xs.flatMap c.write ++ rest)).2 ⟨trivial, rfl⟩
      rw [List.append_assoc, hn]
      have hto : (UInt64.ofNat xs.length).toNat = xs.length := UInt64.toNat_ofNat_of_lt' hlen
      simp only [hto]
      exact (readMany_eq_ok_iff h _ _ _ _).2 ⟨rfl, rfl⟩
  · intro xs hlt
    have hle := length_le_flatMap h consumes xs
    simp only [Codec.list, List.length_append] at hlt
    omega

theorem exact_bytes : bytes.Exact fun bs => bs.length < UInt64.size :=
  exact_byte.list consumes_byte

/-- Once it has read the given bytes, the codec reads the length of a list next. -/
inductive Counts : {α : Type} → Codec α → Bytes → Prop where
  | list {α : Type} {c : Codec α} (consumes : c.Consumes) : Counts c.list []
  | first {α β : Type} {a : Codec α} (b : Codec β) {before : Bytes} (h : Counts a before) :
    Counts (a.pair b) before
  | second {α β : Type} {a : Codec α} {b : Codec β} {start before : Bytes} {x : α}
    (read : ∀ rest, a.read (start ++ rest) = .ok (x, rest)) (h : Counts b before) :
    Counts (a.pair b) (start ++ before)
  | map {α β : Type} {c : Codec α} (forth : α → β) (back : β → α) {before : Bytes}
    (h : Counts c before) : Counts (c.map forth back) before

theorem readMany_refuses {c : Codec α} (consumes : c.Consumes) {n : Nat} {bs : Bytes}
    (short : bs.length < n) : ∃ e, c.readMany n bs = .error e := by
  induction n generalizing bs with
  | zero => cases short
  | succ n ih =>
    rw [readMany]
    cases hx : c.read bs with
    | error e => exact ⟨e, rfl⟩
    | ok p =>
      obtain ⟨x, rest⟩ := p
      have hlt := consumes _ _ _ hx
      have hrest : rest.length < n := by omega
      obtain ⟨e, he⟩ := ih hrest
      simp only [he]
      exact ⟨e, rfl⟩

/-- A length beyond the bytes that follow it is not accepted. -/
theorem Counts.refuses {c : Codec α} {before : Bytes} (h : c.Counts before) {n : UInt64}
    {rest : Bytes} (short : rest.length < n.toNat) :
    ∃ e, c.read (before ++ (word.write n ++ rest)) = .error e := by
  induction h with
  | list consumes =>
    have hn := (exact_word.read_eq_ok_iff _ n rest).2 ⟨trivial, rfl⟩
    obtain ⟨e, he⟩ := readMany_refuses consumes short
    simp only [Codec.list, List.nil_append, hn, he]
    exact ⟨e, rfl⟩
  | first b _ ih =>
    obtain ⟨e, he⟩ := ih
    simp only [Codec.pair, he]
    exact ⟨e, rfl⟩
  | second read _ ih =>
    obtain ⟨e, he⟩ := ih
    rw [List.append_assoc]
    simp only [Codec.pair, read, he]
    exact ⟨e, rfl⟩
  | map forth back _ ih =>
    obtain ⟨e, he⟩ := ih
    simp only [Codec.map, he]
    exact ⟨e, rfl⟩

end BeaconGossip.Codec
