import BeaconGossip.Config
import BeaconGossip.Proofs.Hex.Refusal
import Mathlib.Data.List.Forall2

namespace BeaconGossip

namespace ForkEntry

/-- The fork that an entry tells of. -/
structure Tells (entry : ForkEntry) (fork : Fork) : Prop where
  previous : Hex.Written entry.previousVersion.toList fork.previousVersion.1
  current : Hex.Written entry.currentVersion.toList fork.currentVersion.1
  epoch : fork.epoch = entry.epoch

/-- Both versions are such that they can be read. -/
def Readable (entry : ForkEntry) : Prop :=
  (∃ version : Version, Hex.Written entry.previousVersion.toList version.1) ∧
    ∃ version : Version, Hex.Written entry.currentVersion.toList version.1

/-- What is wrong with an entry. Its previous version comes first. -/
inductive Faulty (entry : ForkEntry) : FieldError → Prop where
  | previous {cause : HexError}
    (refused : Hex.Refused 4 (Hex.digitsOf entry.previousVersion) cause) :
    Faulty entry ⟨"previous_version", 4, entry.previousVersion, cause⟩
  | current {version : Version} {cause : HexError}
    (accepted : Hex.Written entry.previousVersion.toList version.1)
    (refused : Hex.Refused 4 (Hex.digitsOf entry.currentVersion) cause) :
    Faulty entry ⟨"current_version", 4, entry.currentVersion, cause⟩

theorem exists_tells_iff {entry : ForkEntry} : (∃ fork, entry.Tells fork) ↔ entry.Readable := by
  constructor
  · rintro ⟨fork, tells⟩
    exact ⟨⟨_, tells.previous⟩, ⟨_, tells.current⟩⟩
  · rintro ⟨⟨previous, hp⟩, ⟨current, hc⟩⟩
    exact ⟨⟨previous, current, entry.epoch⟩, hp, hc, rfl⟩

theorem exists_forall₂_tells_iff {entries : List ForkEntry} :
    (∃ forks, List.Forall₂ Tells entries forks) ↔ ∀ entry ∈ entries, entry.Readable := by
  induction entries with
  | nil => exact iff_of_true ⟨[], .nil⟩ nofun
  | cons entry rest ih =>
    rw [List.forall_mem_cons, ← ih, ← exists_tells_iff]
    constructor
    · rintro ⟨forks, told⟩
      cases told with
      | cons tells told => exact ⟨⟨_, tells⟩, ⟨_, told⟩⟩
    · rintro ⟨⟨fork, tells⟩, ⟨forks, told⟩⟩
      exact ⟨fork :: forks, .cons tells told⟩

end ForkEntry

namespace ChainConfig

variable {n : Nat} {field text : String} {entry : ForkEntry} {entries : List ForkEntry}
  {fork : Fork} {forks : List Fork} {e : FieldError}

theorem readField_eq_ok_iff {o : Octets n} :
    readField n field text = .ok o ↔ Hex.Written text.toList o.1 := by
  rw [← Hex.read_eq_ok_iff, readField]
  cases Hex.read n text <;> simp

theorem readField_eq_error_iff :
    readField n field text = .error e ↔
      ∃ cause, Hex.Refused n (Hex.digitsOf text) cause ∧ e = ⟨field, n, text, cause⟩ := by
  simp only [← Hex.read_eq_error_iff, readField]
  cases Hex.read n text <;> simp [eq_comm]

theorem readEntry_eq_ok_iff : readEntry entry = .ok fork ↔ entry.Tells fork := by
  simp only [readEntry, bind_eq_ok_iff, readField_eq_ok_iff]
  constructor
  · rintro ⟨previous, hp, current, hc, ⟨⟩⟩
    exact ⟨hp, hc, rfl⟩
  · rintro ⟨hp, hc, epoch⟩
    refine ⟨_, hp, _, hc, ?_⟩
    rw [← epoch]
    rfl

theorem readEntry_eq_error_iff : readEntry entry = .error e ↔ entry.Faulty e := by
  simp only [readEntry, bind_eq_error_iff, readField_eq_ok_iff, readField_eq_error_iff]
  constructor
  · rintro (⟨cause, refused, rfl⟩ | ⟨previous, hp, ⟨cause, refused, rfl⟩ | ⟨_, _, ⟨⟩⟩⟩)
    · exact .previous refused
    · exact .current hp refused
  · intro faulty
    cases faulty with
    | previous refused => exact .inl ⟨_, refused, rfl⟩
    | current accepted refused => exact .inr ⟨_, accepted, .inl ⟨_, refused, rfl⟩⟩

theorem readEntries_eq_ok_iff :
    readEntries entries = .ok forks ↔ List.Forall₂ ForkEntry.Tells entries forks := by
  induction entries generalizing forks with
  | nil =>
    rw [List.forall₂_nil_left_iff]
    constructor
    · rintro ⟨⟩
      rfl
    · rintro rfl
      rfl
  | cons entry rest ih =>
    simp only [readEntries, bind_eq_ok_iff, readEntry_eq_ok_iff, ih, List.forall₂_cons_left_iff]
    constructor
    · rintro ⟨fork, tells, others, told, ⟨⟩⟩
      exact ⟨fork, others, tells, told, rfl⟩
    · rintro ⟨fork, others, tells, told, rfl⟩
      exact ⟨fork, tells, others, told, rfl⟩

theorem readEntries_eq_error_iff :
    readEntries entries = .error e ↔
      ∃ before entry after, entries = before ++ entry :: after ∧
        (∀ earlier ∈ before, earlier.Readable) ∧ entry.Faulty e := by
  induction entries with
  | nil =>
    apply iff_of_false nofun
    rintro ⟨before, entry, after, h, -⟩
    exact List.append_ne_nil_of_right_ne_nil before (List.cons_ne_nil entry after) h.symm
  | cons first rest ih =>
    simp only [readEntries, bind_eq_error_iff, readEntry_eq_ok_iff, readEntry_eq_error_iff, ih]
    constructor
    · rintro (faulty | ⟨fork, told, ⟨before, entry, after, rfl, earlier, faulty⟩ | ⟨_, _, ⟨⟩⟩⟩)
      · exact ⟨[], first, rest, rfl, nofun, faulty⟩
      · have readable := ForkEntry.exists_tells_iff.1 ⟨fork, told⟩
        exact ⟨first :: before, entry, after, rfl, List.forall_mem_cons.2 ⟨readable, earlier⟩,
          faulty⟩
    · rintro ⟨before, entry, after, h, earlier, faulty⟩
      cases before with
      | nil =>
        obtain ⟨rfl, rfl⟩ := List.cons.inj h
        exact .inl faulty
      | cons first' before =>
        obtain ⟨rfl, rfl⟩ := List.cons.inj h
        obtain ⟨readable, earlier⟩ := List.forall_mem_cons.1 earlier
        obtain ⟨fork, told⟩ := ForkEntry.exists_tells_iff.2 readable
        exact .inr ⟨fork, told, .inl ⟨before, entry, after, rfl, earlier, faulty⟩⟩

theorem ofString_eq_ok_iff_readField (field : String) {d : ForkDigest} :
    ForkDigest.ofString text = .ok d ↔ readField 4 field text = .ok d.bytes := by
  rw [ForkDigest.ofString, readField]
  cases Hex.read 4 text with
  | error e => exact iff_of_false nofun nofun
  | ok bytes =>
    obtain ⟨bytes'⟩ := d
    simp

theorem ofString_eq_error_iff_readField (field : String) {cause : HexError} :
    ForkDigest.ofString text = .error cause ↔
      readField 4 field text = .error ⟨field, 4, text, cause⟩ := by
  rw [ForkDigest.ofString, readField]
  cases Hex.read 4 text <;> simp

theorem ofString_toString (d : ForkDigest) : ForkDigest.ofString d.toString = .ok d :=
  (ofString_eq_ok_iff_readField "").2 (readField_eq_ok_iff.2 (Hex.written_toString d.bytes.1))

theorem toString_of_ofString {d : ForkDigest} (h : ForkDigest.ofString text = .ok d) :
    d.toString.toList = (Hex.stripMarks text.toList).map Char.toLower := by
  have written := readField_eq_ok_iff.1 ((ofString_eq_ok_iff_readField "").1 h)
  rw [ForkDigest.toString, Hex.toString, String.toList_ofList]
  exact written.spells.write

theorem chain_of_readForks {c : ChainConfig} (h : c.readForks = .error e) :
    (e.field = "previous_version" ∨ e.field = "current_version") ∧
      e.chain = [e.field, "expected 4 hex bytes, got '" ++ e.text ++ "'", e.cause.message] := by
  have size : "expected " ++ toString 4 ++ " hex bytes, got '" = "expected 4 hex bytes, got '" := by
    decide +kernel
  rw [FieldError.chain, ← size]
  obtain ⟨_, _, _, _, _, faulty⟩ := readEntries_eq_error_iff.1 h
  cases faulty with
  | previous => exact ⟨.inl rfl, rfl⟩
  | current => exact ⟨.inr rfl, rfl⟩

/-- Fields of any size are read if they are written as the digits of their bytes, and refused
otherwise, for one reason. Digests are fields of four bytes. Forks are read if all entries are, in
their order; else the first entry that cannot be read is complained about. -/
theorem fields_read_exactly :
    (∀ n field text,
      (∀ o : Octets n, readField n field text = .ok o ↔ Hex.Written text.toList o.1) ∧
      (∀ e, readField n field text = .error e ↔
        ∃ cause, Hex.Refused n (Hex.digitsOf text) cause ∧ e = ⟨field, n, text, cause⟩)) ∧
    (∀ text : String, (∃ k, text.toList = Hex.marks k ++ Hex.stripMarks text.toList) ∧
      ¬ ['0', 'x'] <+: Hex.stripMarks text.toList) ∧
    (∀ field text,
      (∀ d, ForkDigest.ofString text = .ok d ↔ readField 4 field text = .ok d.bytes) ∧
      (∀ cause, ForkDigest.ofString text = .error cause ↔
        readField 4 field text = .error ⟨field, 4, text, cause⟩) ∧
      (∀ d, ForkDigest.ofString text = .ok d →
        d.toString.toList = (Hex.stripMarks text.toList).map Char.toLower)) ∧
    (∀ d : ForkDigest, ForkDigest.ofString d.toString = .ok d) ∧
    ∀ c : ChainConfig,
      (∀ forks, c.readForks = .ok forks ↔ List.Forall₂ ForkEntry.Tells c.forks forks) ∧
      ((∃ forks, c.readForks = .ok forks) ↔ ∀ entry ∈ c.forks, entry.Readable) ∧
      (∀ e, c.readForks = .error e ↔ ∃ before entry after, c.forks = before ++ entry :: after ∧
        (∀ earlier ∈ before, earlier.Readable) ∧ entry.Faulty e) ∧
      (∀ e, c.readForks = .error e →
        (e.field = "previous_version" ∨ e.field = "current_version") ∧
        e.chain = [e.field, "expected 4 hex bytes, got '" ++ e.text ++ "'", e.cause.message]) := by
  constructor
  · exact fun n field text => ⟨fun o => readField_eq_ok_iff, fun e => readField_eq_error_iff⟩
  constructor
  · exact fun text => ⟨Hex.exists_stripMarks _, Hex.stripMarks_unmarked _⟩
  constructor
  · exact fun field text => ⟨fun d => ofString_eq_ok_iff_readField field,
      fun cause => ofString_eq_error_iff_readField field, fun d => toString_of_ofString⟩
  constructor
  · exact ofString_toString
  · intro c
    constructor
    · exact fun forks => readEntries_eq_ok_iff
    constructor
    · rw [← ForkEntry.exists_forall₂_tells_iff]
      exact exists_congr fun forks => readEntries_eq_ok_iff
    constructor
    · exact fun e => readEntries_eq_error_iff
    · exact fun e => chain_of_readForks

/-- The second entry has a version of eight bytes, of which two are one letter. -/
theorem fields_read_exactly_second_entry :
    let first : ForkEntry := ⟨"0x0x00000000", "B5303f2A", 0⟩
    let second : ForkEntry := ⟨"0xb5303f2a", "0000é00", 74240⟩
    let e : FieldError := ⟨"current_version", 4, "0000é00", .badCharacter 0xc3 4⟩
    let c : ChainConfig := ⟨none, 0, [first, second]⟩
    let d : ForkDigest := ⟨⟨[0xb5, 0x30, 0x3f, 0x2a], rfl⟩⟩
    c.readForks = .error e ∧ ¬ second.Readable ∧
      e.chain = ["current_version", "expected 4 hex bytes, got '0000é00'",
        "Invalid character 'Ã' at position 4"] ∧
      ForkDigest.ofString "0x0xB5303f2A" = .ok d ∧
      d.toString.toList = "b5303f2a".toList := by
  intro first second e c d
  obtain ⟨-, -, digests, -, forks⟩ := fields_read_exactly
  obtain ⟨-, succeeds, -, context⟩ := forks c
  have failed : c.readForks = .error e := by decide +kernel
  have readable : first.Readable :=
    ⟨⟨.fill 4 0, Hex.read_eq_ok_iff.1 (by decide +kernel)⟩,
      ⟨d.bytes, Hex.read_eq_ok_iff.1 (by decide +kernel)⟩⟩
  have read : ForkDigest.ofString "0x0xB5303f2A" = .ok d := by decide +kernel
  constructor
  · exact failed
  constructor
  · intro hsecond
    obtain ⟨forks, hforks⟩ := succeeds.2 (by simp [c, readable, hsecond])
    rw [failed] at hforks
    cases hforks
  constructor
  · rw [(context e failed).2]
    decide +kernel
  constructor
  · exact read
  · rw [(digests "" _).2.2 d read]
    decide +kernel

end ChainConfig

end BeaconGossip
