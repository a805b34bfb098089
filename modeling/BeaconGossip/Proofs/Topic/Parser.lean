import BeaconGossip.Proofs.Hex
import BeaconGossip.Proofs.Topic
import BeaconGossip.Topic.Parser
import Mathlib.Data.List.Basic

namespace BeaconGossip

namespace Text

variable {separator : Char} {text : List Char} {parts : List (List Char)}

theorem segments_eq_splitOn (separator : Char) (text : List Char) :
    segments separator text = text.splitOn separator := by
  induction text with
  | nil => rfl
  | cons c rest ih =>
    rw [segments, ih, List.splitOn_cons_eq_if_modifyHead]
    by_cases hc : c = separator
    · simp [hc]
    · rw [if_neg hc, if_neg (by simpa using hc)]
      cases hs : rest.splitOn separator with
      | nil => exact (List.splitOn_ne_nil separator rest hs).elim
      | cons first others => rfl

theorem not_mem_segments {part : List Char} (h : part ∈ segments separator text) :
    separator ∉ part := by
  induction text generalizing part with
  | nil =>
    rw [segments, List.mem_singleton] at h
    rw [h]
    exact List.not_mem_nil
  | cons c rest ih =>
    rw [segments] at h
    split at h
    case isTrue =>
      rcases List.mem_cons.1 h with rfl | h
      · exact List.not_mem_nil
      · exact ih h
    case isFalse hc =>
      cases hs : segments separator rest with
      | nil =>
        rw [hs, List.mem_singleton] at h
        rw [h, List.mem_singleton]
        exact Ne.symm hc
      | cons first others =>
        rw [hs] at h ih
        rcases List.mem_cons.1 h with rfl | h
        · rw [List.mem_cons, not_or]
          exact ⟨Ne.symm hc, ih List.mem_cons_self⟩
        · exact ih (List.mem_cons_of_mem first h)

theorem segments_eq_iff (nonempty : parts ≠ []) :
    segments separator text = parts ↔
      (∀ part ∈ parts, separator ∉ part) ∧ text = [separator].intercalate parts := by
  constructor
  · rintro rfl
    refine ⟨fun part h => not_mem_segments h, ?_⟩
    rw [segments_eq_splitOn, List.intercalate_splitOn]
  · rintro ⟨apart, rfl⟩
    rw [segments_eq_splitOn, List.splitOn_intercalate separator apart nonempty]

theorem dropStart?_eq_some_iff {start rest : List Char} :
    dropStart? start text = some rest ↔ text = start ++ rest := by
  fun_induction dropStart? start text with
  | case1 text => rw [Option.some.injEq, List.nil_append]
  | case2 p ps => simp
  | case3 ps c text ih => simpa using ih
  | case4 p ps c text hp => simp [Ne.symm hp]

namespace Decimal

/-- A number as it may be written: digits, after a sign or not. -/
def Spells (text : List Char) (n : Nat) : Prop :=
  ∃ digits, (text = digits ∨ text = '+' :: digits) ∧ digits ≠ [] ∧
    (∀ c ∈ digits, c.isDigit = true) ∧ Nat.ofDigitChars 10 digits 0 = n

variable {max n value : Nat} {digits : List Char}

theorem digit?_eq (c : Char) : digit? c = if c.isDigit then some (c.toNat - 48) else none := by
  rw [digit?]
  congr 1
  exact propext Char.isDigit_iff_toNat.symm

theorem le_ofDigitChars (digits : List Char) (value : Nat) :
    value ≤ Nat.ofDigitChars 10 digits value := by
  induction digits generalizing value with
  | nil => exact Nat.le_of_eq Nat.ofDigitChars_nil.symm
  | cons c digits ih =>
    rw [Nat.ofDigitChars_cons]
    exact Nat.le_trans (by omega) (ih _)

theorem readDigits_eq_ok_iff (hv : value ≤ max) :
    readDigits max value digits = .ok n ↔
      (∀ c ∈ digits, c.isDigit = true) ∧ Nat.ofDigitChars 10 digits value = n ∧ n ≤ max := by
  induction digits generalizing value with
  | nil =>
    rw [readDigits, Nat.ofDigitChars_nil, Except.ok.injEq]
    constructor
    · rintro rfl
      exact ⟨nofun, rfl, hv⟩
    · exact fun h => h.2.1
  | cons c rest ih =>
    rw [readDigits, digit?_eq, Nat.ofDigitChars_cons]
    by_cases hc : c.isDigit = true
    · rw [if_pos hc]
      have hle := le_ofDigitChars rest (10 * value + (c.toNat - 48))
      simp only [List.forall_mem_cons, hc, true_and]
      split
      case isTrue hmax =>
        -- Further digits only add to the number.
        refine iff_of_false nofun ?_
        rintro ⟨_, hn, hle'⟩
        have hzero : c.toNat - '0'.toNat = c.toNat - 48 := rfl
        rw [hzero] at hn
        omega
      case isFalse hmax => exact ih (Nat.le_of_not_lt hmax)
    · rw [if_neg hc]
      exact iff_of_false nofun fun h => hc (h.1 c List.mem_cons_self)

/-- There is a digit, and a sign only before the digits. -/
theorem read_eq_ok_iff {text : List Char} : read max text = .ok n ↔ Spells text n ∧ n ≤ max := by
  have plus : ¬ '+'.isDigit = true := by decide
  have hdigits (digits : List Char) (hne : digits ≠ []) : readDigits max 0 digits = .ok n ↔
      (digits ≠ [] ∧ (∀ c ∈ digits, c.isDigit = true) ∧ Nat.ofDigitChars 10 digits 0 = n) ∧
        n ≤ max := by
    rw [readDigits_eq_ok_iff (Nat.zero_le max), and_iff_right hne, and_assoc]
  rw [Spells]
  fun_cases read max text with
  | case1 => simp
  | case2 => simp
  | case3 digits hne =>
    have hne' : digits ≠ [] := by
      rintro rfl
      exact hne rfl
    rw [hdigits digits hne']
    constructor
    · rintro ⟨h, hle⟩
      exact ⟨⟨digits, .inr rfl, h⟩, hle⟩
    · rintro ⟨⟨digits', he | he, h⟩, hle⟩
      · rw [← he] at h
        exact (plus (h.2.1 '+' List.mem_cons_self)).elim
      · cases he
        exact ⟨h, hle⟩
  | case4 =>
    rename_i hne _ hplus
    rw [hdigits text hne]
    constructor
    · rintro ⟨h, hle⟩
      exact ⟨⟨text, .inl rfl, h⟩, hle⟩
    · rintro ⟨⟨digits', rfl | he, h⟩, hle⟩
      · exact ⟨h, hle⟩
      · exact (hplus digits' he).elim

end Decimal

end Text

theorem ForkDigest.ofString_eq_ok_iff {text : List Char} {d : ForkDigest} :
    ofString (String.ofList text) = .ok d ↔ Hex.Written text d.bytes.1 := by
  have hread : Hex.read 4 (String.ofList text) = .ok d.bytes ↔ _ := Hex.read_eq_ok_iff
  rw [String.toList_ofList] at hread
  rw [← hread, ofString]
  cases Hex.read 4 (String.ofList text) with
  | error e => exact iff_of_false nofun nofun
  | ok bytes =>
    obtain ⟨bytes'⟩ := d
    simp

theorem SubnetId.check_eq_ok_iff {index count : UInt64} {id : SubnetId} :
    check index count = .ok id ↔ index < count ∧ id = ⟨index⟩ := by
  rw [check]
  split
  case isTrue hi => rw [Except.ok.injEq, and_iff_right hi, eq_comm]
  case isFalse hi => exact iff_of_false nofun fun h => hi h.1

theorem Encoding.eq_of_ofName? {text : List Char} {e : Encoding}
    (h : ofName? (String.ofList text) = some e) : text = "ssz_snappy".toList := by
  rw [ofName?] at h
  split at h
  case isTrue ht => rw [← ht, String.toList_ofList]
  case isFalse => cases h

namespace TopicKind

/-- The kinds of topic that a fork with so many subnets has. -/
def Within (count : UInt64) : TopicKind → Prop
  | ofClass c => c ≠ .attestation
  | subnet id => id.index < count

/-- The name of a kind as it may be written. -/
inductive Spells (count : UInt64) : List Char → TopicKind → Prop where
  | ofClass (c : MessageClass) (single : c ≠ .attestation) : Spells count c.name.toList (ofClass c)
  | subnet {index : List Char} {n : Nat} (number : Text.Decimal.Spells index n)
    (lt : n < count.toNat) :
    Spells count ("beacon_attestation_".toList ++ index) (subnet ⟨UInt64.ofNat n⟩)

variable {count : UInt64} {name : List Char} {kind : TopicKind}

theorem toNat_ofNat_of_lt {n : Nat} (lt : n < count.toNat) : (UInt64.ofNat n).toNat = n :=
  UInt64.toNat_ofNat_of_lt' (Nat.lt_trans lt count.toNat_lt)

/-- After the words that the names of subnets begin with, there has to be the number of a subnet. -/
theorem ofName?_subnet (index : List Char) :
    ofName? count ("beacon_attestation_".toList ++ index) = some kind ↔
      ∃ n, Text.Decimal.Spells index n ∧ n < count.toNat ∧
        kind = subnet ⟨UInt64.ofNat n⟩ := by
  have hd : Text.dropStart? (MessageClass.attestation.name ++ "_").toList
      ("beacon_attestation_".toList ++ index) = some index := Text.dropStart?_eq_some_iff.2 rfl
  rw [ofName?, hd]
  constructor
  · intro h
    dsimp only at h
    split at h
    · cases h
    · rename_i n hn
      obtain ⟨number, hmax⟩ := Text.Decimal.read_eq_ok_iff.1 hn
      split at h
      · rename_i id hid
        obtain ⟨hlt, rfl⟩ := SubnetId.check_eq_ok_iff.1 hid
        rw [Option.some.injEq] at h
        have hsize : n < UInt64.size := Nat.lt_of_le_of_lt hmax (by decide)
        rw [UInt64.lt_iff_toNat_lt, UInt64.toNat_ofNat_of_lt' hsize] at hlt
        exact ⟨n, number, hlt, h.symm⟩
      · cases h
  · rintro ⟨n, number, lt, rfl⟩
    have hmax : n ≤ UInt64.size - 1 := Nat.le_pred_of_lt (Nat.lt_trans lt count.toNat_lt)
    have hlt : UInt64.ofNat n < count := by
      rw [UInt64.lt_iff_toNat_lt, toNat_ofNat_of_lt lt]
      exact lt
    simp only [Text.Decimal.read_eq_ok_iff.2 ⟨number, hmax⟩, SubnetId.check_eq_ok_iff.2 ⟨hlt, rfl⟩]

theorem ofName?_ofClass (other : Text.dropStart? "beacon_attestation_".toList name = none) :
    ofName? count name = some kind ↔
      ∃ c, c ≠ .attestation ∧ name = c.name.toList ∧ kind = ofClass c := by
  have hd : Text.dropStart? (MessageClass.attestation.name ++ "_").toList name = none := other
  rw [ofName?, hd]
  constructor
  · intro h
    obtain ⟨c, hc, rfl⟩ := Option.map_eq_some_iff.1 h
    have hm := (List.mem_filter.1 (List.mem_of_find?_eq_some hc)).2
    have hn := List.find?_some hc
    exact ⟨c, of_decide_eq_true hm, (of_decide_eq_true hn).symm, rfl⟩
  · rintro ⟨c, single, rfl, rfl⟩
    have hfind : (MessageClass.all.filter (· ≠ .attestation)).find?
        (fun c' => c'.name.toList = c.name.toList) = some c := by
      revert single
      cases c <;> decide
    exact congrArg (Option.map ofClass) hfind

theorem ofName?_eq_some_iff : ofName? count name = some kind ↔ Spells count name kind := by
  have apart (c : MessageClass) :
      Text.dropStart? "beacon_attestation_".toList c.name.toList = none := by
    cases c <;> rfl
  cases hd : Text.dropStart? "beacon_attestation_".toList name with
  | none =>
    rw [ofName?_ofClass hd]
    constructor
    · rintro ⟨c, single, rfl, rfl⟩
      exact .ofClass c single
    · rintro (⟨c, single⟩ | ⟨number, lt⟩)
      · exact ⟨c, single, rfl, rfl⟩
      · rw [Text.dropStart?_eq_some_iff.2 rfl] at hd
        cases hd
  | some index =>
    obtain rfl := Text.dropStart?_eq_some_iff.1 hd
    rw [ofName?_subnet]
    constructor
    · rintro ⟨n, number, lt, rfl⟩
      exact .subnet number lt
    · intro h
      generalize hname : "beacon_attestation_".toList ++ index = name at h hd
      cases h with
      | ofClass c single =>
        rw [apart] at hd
        cases hd
      | @subnet index' n number lt =>
        obtain rfl := List.append_cancel_left hname
        exact ⟨n, number, lt, rfl⟩

theorem Spells.within (h : Spells count name kind) : kind.Within count := by
  cases h with
  | ofClass c single => exact single
  | @subnet index n number lt =>
    rw [Within, UInt64.lt_iff_toNat_lt, toNat_ofNat_of_lt lt]
    exact lt

theorem Within.spells (h : kind.Within count) : Spells count kind.name.toList kind := by
  cases kind with
  | ofClass c => exact .ofClass c h
  | subnet id =>
    have number : Text.Decimal.Spells id.toString.toList id.toNat :=
      ⟨Nat.toDigits 10 id.toNat, .inl (Nat.toList_repr), Nat.toDigits_ne_nil,
        fun c hc => Nat.isDigit_of_mem_toDigits (by decide) (by decide) hc,
        Nat.ofDigitChars_ten_toDigits⟩
    have hs := Spells.subnet number (UInt64.lt_iff_toNat_lt.1 h)
    rw [SubnetId.toNat, UInt64.ofNat_toNat] at hs
    have hname : (TopicKind.subnet id).name.toList =
        "beacon_attestation_".toList ++ id.toString.toList := by
      rw [name, String.toList_append]
      rfl
    rw [hname]
    exact hs

theorem Spells.slash_not_mem (h : Spells count name kind) : '/' ∉ name := by
  cases h with
  | ofClass c => cases c <;> decide
  | subnet number lt =>
    obtain ⟨digits, hindex, _, hdigits, _⟩ := number
    have hslash : '/' ∉ digits := fun hm => Bool.noConfusion (hdigits '/' hm)
    rw [List.mem_append, not_or]
    refine ⟨by decide, ?_⟩
    rcases hindex with rfl | rfl
    · exact hslash
    · rw [List.mem_cons, not_or]
      exact ⟨by decide, hslash⟩

end TopicKind

namespace TopicNamer

/-- The name of a topic as it may be written. -/
def Spells (space : String) (count : UInt64) (topic : List Char) (d : ForkDigest)
    (kind : TopicKind) : Prop :=
  '/' ∉ space.toList ∧ ∃ digest name,
    topic = '/' :: space.toList ++ '/' :: digest ++ '/' :: name ++ "/ssz_snappy".toList ∧
      Hex.Written digest d.bytes.1 ∧ kind.Spells count name

variable {space topic : String} {count : UInt64} {d : ForkDigest} {kind : TopicKind}

theorem parse?_eq_some_iff :
    parse? space topic count = some (d, kind) ↔ Spells space count topic.toList d kind := by
  rw [parse?]
  constructor
  · intro h
    split at h
    · rename_i rest htopic
      split at h
      · rename_i first digest name encoding hs
        obtain ⟨apart, rfl⟩ := (Text.segments_eq_iff (List.cons_ne_nil _ _)).1 hs
        split at h
        · rename_i hfirst
          split at h
          · rename_i hdigest hname hencoding
            simp only [Option.some.injEq, Prod.mk.injEq] at h
            obtain ⟨rfl, rfl⟩ := h
            rw [hfirst] at apart
            refine ⟨apart _ List.mem_cons_self, digest, name, ?_,
              ForkDigest.ofString_eq_ok_iff.1 hdigest, TopicKind.ofName?_eq_some_iff.1 hname⟩
            rw [htopic, hfirst, Encoding.eq_of_ofName? hencoding]
            simp [List.intercalate]
          · cases h
        · cases h
      · cases h
    · cases h
  · rintro ⟨hspace, digest, name, htopic, hdigest, hname⟩
    have hs : Text.segments '/'
          (space.toList ++ '/' :: digest ++ '/' :: name ++ "/ssz_snappy".toList) =
        [space.toList, digest, name, "ssz_snappy".toList] := by
      refine (Text.segments_eq_iff (List.cons_ne_nil _ _)).2 ⟨?_, ?_⟩
      · simp only [List.forall_mem_cons]
        exact ⟨hspace, hdigest.slash_not_mem, hname.slash_not_mem, by decide, nofun⟩
      · simp [List.intercalate]
    rw [htopic]
    simp only [List.cons_append, hs, if_true, ForkDigest.ofString_eq_ok_iff.2 hdigest,
      TopicKind.ofName?_eq_some_iff.2 hname, String.ofList_toList]
    rfl

theorem spells_topic (hspace : '/' ∉ space.toList) (d : ForkDigest) (encoding : Encoding)
    (within : kind.Within count) :
    Spells space count (TopicNamer.topic ⟨space, d, encoding⟩ kind).toList d kind := by
  refine ⟨hspace, d.toString.toList, kind.name.toList, ?_, Hex.written_toString _, within.spells⟩
  cases encoding
  simp [TopicNamer.topic, Encoding.name]

/-- A topic is read exactly if the grammar has it. Among the names that a fork digest and a kind may
have is the one that is built from them, and so it can take the place of any other. -/
theorem parses_exactly (space text : String) (count : UInt64) :
    (∀ d kind, parse? space text count = some (d, kind) ↔
        Spells space count text.toList d kind) ∧
      (∀ d encoding kind, '/' ∉ space.toList → kind.Within count →
        parse? space (TopicNamer.topic ⟨space, d, encoding⟩ kind) count = some (d, kind)) ∧
      ∀ d encoding kind, parse? space text count = some (d, kind) →
        parse? space (TopicNamer.topic ⟨space, d, encoding⟩ kind) count = some (d, kind) := by
  refine ⟨fun d kind => parse?_eq_some_iff, ?_, ?_⟩
  · intro d encoding kind hspace within
    exact parse?_eq_some_iff.2 (spells_topic hspace d encoding within)
  · intro d encoding kind h
    obtain ⟨hspace, _, _, _, _, hname⟩ := parse?_eq_some_iff.1 h
    exact parse?_eq_some_iff.2 (spells_topic hspace d encoding hname.within)

/-- Marks before the digest, digits in both cases, a sign and a leading zero. -/
theorem parses_exactly_loosely_written :
    let text := "/eth2/0x0xB5303f2A/beacon_attestation_+063/ssz_snappy"
    let d : ForkDigest := ⟨⟨[0xb5, 0x30, 0x3f, 0x2a], rfl⟩⟩
    let kind : TopicKind := .subnet ⟨63⟩
    parse? "eth2" text 64 = some (d, kind) ∧ Spells "eth2" 64 text.toList d kind ∧
      parse? "eth2" "/eth2/b5303f2a/beacon_attestation_63/ssz_snappy" 64 = some (d, kind) ∧
      '/' ∉ "eth2".toList ∧ (TopicKind.ofClass .aggregate).Within 64 ∧
      parse? "eth2" "/eth2/b5303f2a/beacon_aggregate_and_proof/ssz_snappy" 64 =
        some (d, .ofClass .aggregate) := by
  intro text d kind
  obtain ⟨accepts, built, rebuilt⟩ := parses_exactly "eth2" text 64
  have parsed : parse? "eth2" text 64 = some (d, kind) := by decide +kernel
  have apart : '/' ∉ "eth2".toList := by decide
  have within : (TopicKind.ofClass .aggregate).Within 64 := MessageClass.noConfusion
  have hsubnet : TopicNamer.topic ⟨"eth2", d, .sszSnappy⟩ kind =
      "/eth2/b5303f2a/beacon_attestation_63/ssz_snappy" := by decide +kernel
  have haggregate : TopicNamer.topic ⟨"eth2", d, .sszSnappy⟩ (.ofClass .aggregate) =
      "/eth2/b5303f2a/beacon_aggregate_and_proof/ssz_snappy" := by decide +kernel
  refine ⟨parsed, (accepts d kind).1 parsed, ?_, apart, within, ?_⟩
  · rw [← hsubnet]
    exact rebuilt d .sszSnappy kind parsed
  · rw [← haggregate]
    exact built d .sszSnappy _ apart within

end TopicNamer

end BeaconGossip
