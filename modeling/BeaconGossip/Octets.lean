namespace BeaconGossip

abbrev Bytes := List UInt8

abbrev Octets (n : Nat) := { bytes : Bytes // bytes.length = n }

namespace Octets

def ofList? (n : Nat) (bytes : Bytes) : Option (Octets n) :=
  if h : bytes.length = n then some ⟨bytes, h⟩ else none

/-- The same byte throughout. -/
def fill (n : Nat) (b : UInt8) : Octets n := ⟨List.replicate n b, List.length_replicate⟩

/-- The first `m` bytes. -/
def take {n : Nat} (m : Nat) (o : Octets n) (h : m ≤ n) : Octets m :=
  ⟨o.1.take m, by rw [List.length_take, o.2]; exact Nat.min_eq_left h⟩

end Octets

namespace Bytes

/-- Cuts off the first `n` bytes; there is no result when fewer are left. -/
def splitExact : (n : Nat) → Bytes → Option (Octets n × Bytes)
  | 0, bs => some (⟨[], rfl⟩, bs)
  | _ + 1, [] => none
  | n + 1, b :: bs =>
    match splitExact n bs with
    | none => none
    | some (o, rest) => some (⟨b :: o.1, congrArg (· + 1) o.2⟩, rest)

theorem splitExact_append {n : Nat} (o : Octets n) (rest : Bytes) :
    splitExact n (o.1 ++ rest) = some (o, rest) := by
  induction n with
  | zero =>
    obtain ⟨bs, h⟩ := o
    obtain rfl := List.length_eq_zero_iff.1 h
    rfl
  | succ n ih =>
    obtain ⟨bs, h⟩ := o
    match bs, h with
    | b :: bs, h =>
      have := ih ⟨bs, Nat.succ.inj h⟩
      simp only [List.cons_append, splitExact, this]

theorem eq_append_of_splitExact {n : Nat} {bs rest : Bytes} {o : Octets n}
    (h : splitExact n bs = some (o, rest)) : bs = o.1 ++ rest := by
  induction n generalizing bs with
  | zero =>
    simp only [splitExact, Option.some.injEq, Prod.mk.injEq] at h
    obtain ⟨rfl, rfl⟩ := h
    rfl
  | succ n ih =>
    cases bs with
    | nil => simp [splitExact] at h
    | cons b bs =>
      simp only [splitExact] at h
      split at h
      · simp at h
      · rename_i o' rest' hs
        simp only [Option.some.injEq, Prod.mk.injEq] at h
        obtain ⟨rfl, rfl⟩ := h
        rw [ih hs]
        rfl

theorem splitExact_eq_none_iff {n : Nat} {bs : Bytes} :
    splitExact n bs = none ↔ bs.length < n := by
  induction n generalizing bs with
  | zero => simp [splitExact]
  | succ n ih =>
    cases bs with
    | nil => simp [splitExact]
    | cons b bs =>
      rw [splitExact]
      cases hs : splitExact n bs with
      | none => simp [ih.1 hs]
      | some r =>
        have : ¬ bs.length < n := fun hl => by simp [ih.2 hl] at hs
        simp [this]

/-- Bytes of a number, least significant first, cut to `n` bytes. -/
def littleEndian : (n : Nat) → Nat → Octets n
  | 0, _ => ⟨[], rfl⟩
  | n + 1, x =>
    let rest := littleEndian n (x / 256)
    ⟨UInt8.ofNat (x % 256) :: rest.1, congrArg (· + 1) rest.2⟩

/-- Number of which the bytes are the digits, least significant first. -/
def ofLittleEndian : Bytes → Nat
  | [] => 0
  | b :: bs => b.toNat + 256 * ofLittleEndian bs

theorem ofLittleEndian_lt (bs : Bytes) : ofLittleEndian bs < Nat.pow 256 bs.length := by
  induction bs with
  | nil => decide
  | cons b bs ih =>
    have hb := b.toNat_lt
    have hp : Nat.pow 256 (b :: bs).length = 256 * Nat.pow 256 bs.length := Nat.mul_comm _ _
    rw [ofLittleEndian, hp]
    omega

theorem ofLittleEndian_littleEndian (n x : Nat) :
    ofLittleEndian (littleEndian n x).1 = x % Nat.pow 256 n := by
  induction n generalizing x with
  | zero => exact (Nat.mod_one x).symm
  | succ n ih =>
    have h : (UInt8.ofNat (x % 256)).toNat = x % 256 := by
      rw [UInt8.toNat_ofNat']
      exact Nat.mod_eq_of_lt (Nat.mod_lt _ (by decide))
    have hp : Nat.pow 256 (n + 1) = 256 * Nat.pow 256 n := Nat.mul_comm _ _
    simp only [littleEndian, ofLittleEndian, h, ih]
    rw [hp, Nat.mod_mul]

theorem littleEndian_ofLittleEndian (bs : Bytes) :
    (littleEndian bs.length (ofLittleEndian bs)).1 = bs := by
  induction bs with
  | nil => rfl
  | cons b bs ih =>
    have hb := b.toNat_lt
    have hm : (b.toNat + 256 * ofLittleEndian bs) % 256 = b.toNat := by omega
    have hd : (b.toNat + 256 * ofLittleEndian bs) / 256 = ofLittleEndian bs := by omega
    simp only [List.length_cons, littleEndian, ofLittleEndian, hm, hd, ih]
    rw [UInt8.ofNat_toNat]

end Bytes

end BeaconGossip
