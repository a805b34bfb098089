import BeaconGossip.Subnet
import Mathlib.Algebra.Group.Nat.Defs

namespace BeaconGossip.Subnet

/-- The number of a committee among those of its epoch. -/
def number (committeesPerSlot slot committee : UInt64) : Nat :=
  committeesPerSlot.toNat * (slot.toNat % 32) + committee.toNat

variable {committeesPerSlot slot slot' committee committee' count : UInt64}

theorem toNat_saturatingMul (a b : UInt64) :
    (saturatingMul a b).toNat = min (a.toNat * b.toNat) (2 ^ 64 - 1) := by
  rw [saturatingMul]
  split
  case isTrue h =>
    have fits : a.toNat * b.toNat < 2 ^ 64 := h
    rw [UInt64.toNat_mul, Nat.mod_eq_of_lt fits, Nat.min_eq_left (Nat.le_sub_one_of_lt fits)]
  case isFalse h =>
    have large : 2 ^ 64 ≤ a.toNat * b.toNat := Nat.le_of_not_lt h
    rw [Nat.min_eq_right (Nat.le_trans (Nat.sub_le _ _) large)]
    rfl

theorem toNat_width (count : UInt64) :
    (if count = 0 then 1 else count).toNat = max count.toNat 1 := by
  split
  case isTrue h =>
    rw [h]
    rfl
  case isFalse h =>
    have positive : count.toNat ≠ 0 := fun zero => h (UInt64.toNat_inj.1 zero)
    rw [Nat.max_eq_left (Nat.one_le_iff_ne_zero.2 positive)]

theorem toNat_ofCommittee (committeesPerSlot slot committee count : UInt64) :
    (ofCommittee committeesPerSlot slot committee count).toNat =
      (min (committeesPerSlot.toNat * (slot.toNat % 32)) (2 ^ 64 - 1) + committee.toNat) %
        2 ^ 64 % max count.toNat 1 := by
  have hslot : (slot % slotsPerEpoch).toNat = slot.toNat % 32 := UInt64.toNat_mod slot 32
  rw [SubnetId.toNat, ofCommittee, UInt64.toNat_mod, toNat_width, UInt64.toNat_add,
    toNat_saturatingMul, hslot]

theorem ofCommittee_lt (committeesPerSlot slot committee count : UInt64) :
    (ofCommittee committeesPerSlot slot committee count).toNat < max count.toNat 1 := by
  rw [toNat_ofCommittee]
  apply Nat.mod_lt
  exact Nat.lt_of_lt_of_le Nat.one_pos (Nat.le_max_right _ _)

theorem ofCommittee_congr (h : slot.toNat % 32 = slot'.toNat % 32) :
    ofCommittee committeesPerSlot slot committee count =
      ofCommittee committeesPerSlot slot' committee count := by
  have same : slot % slotsPerEpoch = slot' % slotsPerEpoch := by
    apply UInt64.toNat_inj.1
    rw [UInt64.toNat_mod, UInt64.toNat_mod]
    exact h
  rw [ofCommittee, ofCommittee, same]

theorem ofCommittee_of_fits (fits : committeesPerSlot.toNat * (slot.toNat % 32) < 2 ^ 64) :
    (ofCommittee committeesPerSlot slot committee count).toNat =
      number committeesPerSlot slot committee % 2 ^ 64 % max count.toNat 1 := by
  rw [toNat_ofCommittee, Nat.min_eq_left (Nat.le_sub_one_of_lt fits), number]

theorem ofCommittee_of_number_lt (fits : number committeesPerSlot slot committee < 2 ^ 64) :
    (ofCommittee committeesPerSlot slot committee count).toNat =
      number committeesPerSlot slot committee % max count.toNat 1 := by
  have product : committeesPerSlot.toNat * (slot.toNat % 32) < 2 ^ 64 :=
    Nat.lt_of_le_of_lt (Nat.le_add_right _ _) fits
  rw [ofCommittee_of_fits product, Nat.mod_eq_of_lt fits]

/-- A sum that goes on from zero has lost whole rounds. -/
theorem ofCommittee_of_two_pow {k : Nat} (power : count.toNat = 2 ^ k)
    (fits : committeesPerSlot.toNat * (slot.toNat % 32) < 2 ^ 64) :
    (ofCommittee committeesPerSlot slot committee count).toNat =
      number committeesPerSlot slot committee % max count.toNat 1 := by
  have small : 2 ^ k < 2 ^ 64 := power ▸ count.toNat_lt
  have rounds : 2 ^ k ∣ 2 ^ 64 :=
    Nat.pow_dvd_pow 2 (Nat.le_of_lt ((Nat.pow_lt_pow_iff_right (by decide)).1 small))
  rw [ofCommittee_of_fits fits, power, Nat.max_eq_left Nat.one_le_two_pow,
    Nat.mod_mod_of_dvd _ rounds]

theorem number_lt (h : committee < committeesPerSlot) :
    number committeesPerSlot slot committee < 32 * committeesPerSlot.toNat := by
  have hslot : slot.toNat % 32 + 1 ≤ 32 := Nat.mod_lt _ (by decide)
  have hcommittee : committee.toNat < committeesPerSlot.toNat := UInt64.lt_iff_toNat_lt.1 h
  calc number committeesPerSlot slot committee
      < committeesPerSlot.toNat * (slot.toNat % 32) + committeesPerSlot.toNat :=
        Nat.add_lt_add_left hcommittee _
    _ = committeesPerSlot.toNat * (slot.toNat % 32 + 1) := rfl
    _ ≤ committeesPerSlot.toNat * 32 := Nat.mul_le_mul_left _ hslot
    _ = 32 * committeesPerSlot.toNat := Nat.mul_comm _ _

theorem number_eq_iff (h : committee < committeesPerSlot) (h' : committee' < committeesPerSlot) :
    number committeesPerSlot slot committee = number committeesPerSlot slot' committee' ↔
      slot.toNat % 32 = slot'.toNat % 32 ∧ committee = committee' := by
  have divided (slot committee : UInt64) (h : committee < committeesPerSlot) :
      number committeesPerSlot slot committee / committeesPerSlot.toNat = slot.toNat % 32 ∧
        number committeesPerSlot slot committee % committeesPerSlot.toNat = committee.toNat := by
    have lt := UInt64.lt_iff_toNat_lt.1 h
    constructor
    · rw [number, Nat.mul_add_div (Nat.zero_lt_of_lt lt), Nat.div_eq_of_lt lt, Nat.add_zero]
    · rw [number, Nat.mul_add_mod, Nat.mod_eq_of_lt lt]
  obtain ⟨hslot, hcommittee⟩ := divided slot committee h
  obtain ⟨hslot', hcommittee'⟩ := divided slot' committee' h'
  constructor
  · intro same
    rw [same] at hslot hcommittee
    exact ⟨hslot.symm.trans hslot', UInt64.toNat_inj.1 (hcommittee.symm.trans hcommittee')⟩
  · rintro ⟨same, rfl⟩
    rw [number, same, ← number]

/-- With a subnet for each committee of an epoch, a committee has the subnet of its number. -/
theorem ofCommittee_eq_number (enough : 32 * committeesPerSlot.toNat ≤ count.toNat)
    (h : committee < committeesPerSlot) :
    (ofCommittee committeesPerSlot slot committee count).toNat =
      number committeesPerSlot slot committee := by
  have lt : number committeesPerSlot slot committee < count.toNat :=
    Nat.lt_of_lt_of_le (number_lt h) enough
  rw [ofCommittee_of_number_lt (Nat.lt_trans lt count.toNat_lt), Nat.max_eq_left,
    Nat.mod_eq_of_lt lt]
  exact Nat.succ_le_of_lt (Nat.zero_lt_of_lt lt)

/-- The subnet of a committee is its number among the committees of its epoch, counted around the
subnets, as long as words hold what it is computed from; with enough subnets, no two committees of
an epoch share one. -/
theorem committees_laid_out (committeesPerSlot count : UInt64) :
    (∀ slot committee,
      (ofCommittee committeesPerSlot slot committee count).toNat < max count.toNat 1) ∧
    (∀ slot slot' committee, slot.toNat % 32 = slot'.toNat % 32 →
      ofCommittee committeesPerSlot slot committee count =
        ofCommittee committeesPerSlot slot' committee count) ∧
    (∀ slot committee, number committeesPerSlot slot committee < 2 ^ 64 →
      (ofCommittee committeesPerSlot slot committee count).toNat =
        number committeesPerSlot slot committee % max count.toNat 1) ∧
    (∀ slot committee k, count.toNat = 2 ^ k →
      committeesPerSlot.toNat * (slot.toNat % 32) < 2 ^ 64 →
      (ofCommittee committeesPerSlot slot committee count).toNat =
        number committeesPerSlot slot committee % max count.toNat 1) ∧
    (32 * committeesPerSlot.toNat ≤ count.toNat →
      ∀ slot slot' committee committee',
        committee < committeesPerSlot → committee' < committeesPerSlot →
        (ofCommittee committeesPerSlot slot committee count =
            ofCommittee committeesPerSlot slot' committee' count ↔
          slot.toNat % 32 = slot'.toNat % 32 ∧ committee = committee')) := by
  constructor
  · exact fun slot committee => ofCommittee_lt ..
  constructor
  · exact fun slot slot' committee => ofCommittee_congr
  constructor
  · exact fun slot committee => ofCommittee_of_number_lt
  constructor
  · exact fun slot committee k => ofCommittee_of_two_pow
  · intro enough slot slot' committee committee' h h'
    rw [← number_eq_iff h h', ← ofCommittee_eq_number enough h, ← ofCommittee_eq_number enough h']
    constructor
    · exact congrArg SubnetId.toNat
    · intro same
      exact congrArg SubnetId.mk (UInt64.toNat_inj.1 same)

/-- A sum that does not fit a word, of a product that does. -/
theorem committees_laid_out_past_word :
    let committeesPerSlot := UInt64.ofNat (2 ^ 58)
    let count := UInt64.ofNat (2 ^ 63)
    let last := UInt64.ofNat (2 ^ 64 - 1)
    (ofCommittee committeesPerSlot 63 last count).toNat = 2 ^ 58 * 31 - 1 ∧
      2 ^ 64 ≤ number committeesPerSlot 63 last ∧
      (ofCommittee committeesPerSlot 63 1 count).toNat = 2 ^ 58 * 31 + 1 ∧
      32 * committeesPerSlot.toNat ≤ count.toNat ∧
      ofCommittee committeesPerSlot 63 0 count = ofCommittee committeesPerSlot 31 0 count ∧
      ofCommittee committeesPerSlot 63 0 count ≠ ofCommittee committeesPerSlot 63 1 count := by
  intro committeesPerSlot count last
  obtain ⟨-, periodic, numbered, rounded, apart⟩ := committees_laid_out committeesPerSlot count
  have enough : 32 * committeesPerSlot.toNat ≤ count.toNat := by decide
  have different : ¬ (0 : UInt64) = 1 := by decide
  constructor
  · rw [rounded 63 last 63 (by decide) (by decide)]
    decide
  constructor
  · decide
  constructor
  · rw [numbered 63 1 (by decide)]
    decide
  constructor
  · exact enough
  constructor
  · exact periodic 63 31 0 (by decide)
  · intro same
    exact different ((apart enough 63 63 0 1 (by decide) (by decide)).1 same).2

end BeaconGossip.Subnet
