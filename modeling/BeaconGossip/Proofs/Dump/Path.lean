import BeaconGossip.Proofs.Dump.Name
import BeaconGossip.Proofs.FileTree

namespace BeaconGossip

theorem MessageClass.proper_name (cls : MessageClass) : FileTree.Proper cls.name := by
  constructor <;> cases cls <;> decide

namespace Dump

/-- The path of a dump below the directory given. -/
def path (directory : String) (cls : MessageClass) (name : List Char) : String :=
  FileTree.join (FileTree.join directory cls.name) (String.ofList name)

/-- The characters that names are made of, up to their ending. -/
def Safe (c : Char) : Prop :=
  ('a' ≤ c ∧ c ≤ 'z') ∨ ('A' ≤ c ∧ c ≤ 'Z') ∨ ('0' ≤ c ∧ c ≤ '9') ∨ c = '_'

/-- A name without its ending. -/
def stem (millis sequence : Nat) (reason : String) : List Char :=
  Text.Decimal.write millis ++ '_' :: (sequenceDigits sequence ++ '_' :: tag reason)

variable {millis sequence : Nat} {reason : String} {c : Char}

theorem fileName_eq (millis sequence : Nat) (reason : String) :
    fileName millis sequence reason = stem millis sequence reason ++ ".bin".toList := by
  rw [fileName, shortName, stem]
  simp only [List.append_assoc, List.cons_append]

theorem safe_underscore : Safe '_' := .inr (.inr (.inr rfl))

theorem not_safe_slash : ¬ Safe '/' := by
  rw [Safe]
  decide

theorem safe_of_isDigit (h : c.isDigit = true) : Safe c := by
  obtain ⟨first, last⟩ := Bool.and_eq_true_iff.1 h
  exact .inr (.inr (.inl ⟨of_decide_eq_true first, of_decide_eq_true last⟩))

theorem safe_of_isAlphanum (h : c.isAlphanum = true) : Safe c := by
  rcases Bool.or_eq_true_iff.1 h with letter | digit
  · rcases Bool.or_eq_true_iff.1 letter with upper | lower
    · exact .inr (.inl (of_decide_eq_true upper))
    · obtain ⟨first, last⟩ := Bool.and_eq_true_iff.1 lower
      exact .inl ⟨of_decide_eq_true first, of_decide_eq_true last⟩
  · exact safe_of_isDigit digit

theorem safe_tag (h : c ∈ tag reason) : Safe c := by
  obtain ⟨written, -, rfl⟩ := List.mem_map.1 h
  split
  case isTrue plain => exact safe_of_isAlphanum plain
  case isFalse => exact safe_underscore

theorem safe_stem (h : c ∈ stem millis sequence reason) : Safe c := by
  rw [stem, List.mem_append, List.mem_cons, List.mem_append, List.mem_cons] at h
  rcases h with h | rfl | h | rfl | h
  · exact safe_of_isDigit (isDigit_write millis c h)
  · exact safe_underscore
  · exact safe_of_isDigit (isDigit_sequenceDigits sequence c h)
  · exact safe_underscore
  · exact safe_tag h

theorem length_tag_le (reason : String) : (tag reason).length ≤ 48 := by
  rw [tag, List.length_map]
  exact List.length_take_le tagLimit _

theorem length_fileName_le (millis sequence : Nat) (reason : String) :
    (fileName millis sequence reason).length ≤
      (Text.Decimal.write millis).length + (sequenceDigits sequence).length +
        "__.bin".toList.length + 48 := by
  have limit := length_tag_le reason
  have fixed : "__.bin".toList.length = ".bin".toList.length + 2 := by decide
  rw [fileName_eq, fixed, stem]
  simp only [List.length_append, List.length_cons]
  omega

/-- There is an underscore in the name and no slash, so it is neither of the special names. -/
theorem proper_fileName (millis sequence : Nat) (reason : String) :
    FileTree.Proper (String.ofList (fileName millis sequence reason)) := by
  have underscore : '_' ∈ fileName millis sequence reason := by
    rw [fileName]
    exact List.mem_append_right _ List.mem_cons_self
  have other {special : List Char} (without : '_' ∉ special) :
      fileName millis sequence reason ≠ special := fun h => without (h ▸ underscore)
  constructor <;> rw [String.toList_ofList]
  · exact other (by decide)
  · exact other (by decide)
  · exact other (by decide)
  · rw [fileName_eq, List.mem_append, not_or]
    constructor
    · exact fun slash => not_safe_slash (safe_stem slash)
    · decide

/-- The name of a dump is made of plain characters and has one ending; all but the clock reading, the
sequence number and what is the same in all names takes up at most 48 characters. The dump lies in
the directory of its class. Both numbers can be read off its name, so dumps under different sequence
numbers have different names. -/
theorem names_confined (millis sequence : Nat) (reason : String) :
    let name := fileName millis sequence reason
    (∃ stem, name = stem ++ ".bin".toList ∧ ∀ c ∈ stem, Safe c) ∧
      name.length ≤ (Text.Decimal.write millis).length + (sequenceDigits sequence).length +
        "__.bin".toList.length + 48 ∧
      (∀ (t : FileTree) (directory : String) (cls : MessageClass),
        t.locate (FileTree.join directory cls.name) = t.locate directory ++ [cls.name] ∧
        t.locate (path directory cls name) =
          t.locate (FileTree.join directory cls.name) ++ [String.ofList name] ∧
        ∀ l, t.place (path directory cls name) = .ok (.name l) →
          l = t.locate (FileTree.join directory cls.name) ++ [String.ofList name]) ∧
      millisOf name = millis ∧ sequenceOf name = sequence ∧
      ∀ millis' sequence' reason', sequence ≠ sequence' →
        name ≠ fileName millis' sequence' reason' := by
  intro name
  have child (t : FileTree) (directory : String) (cls : MessageClass) :
      t.locate (path directory cls name) =
        t.locate (FileTree.join directory cls.name) ++ [String.ofList name] :=
    (proper_fileName millis sequence reason).locate_join t _
  constructor
  · exact ⟨stem millis sequence reason, fileName_eq .., fun c => safe_stem⟩
  constructor
  · exact length_fileName_le ..
  constructor
  · intro t directory cls
    constructor
    · exact cls.proper_name.locate_join t directory
    constructor
    · exact child t directory cls
    · intro l placed
      rw [FileTree.place_eq_name placed]
      exact child t directory cls
  constructor
  · exact millisOf_fileName
  constructor
  · exact sequenceOf_fileName
  · intro millis' sequence' reason' different same
    exact different (sequence_inj same)

/-- A reason that would lead upwards, and looks like the end of another name. -/
theorem names_confined_climbing :
    let name := fileName 17 1234567 "../é\x00_000002_.bin"
    let t := FileTree.ofFiles [("dumps/beacon_block/old", [])]
    let l := ["tmp", "node", "dumps", "beacon_block", "17_1234567_______000002__bin.bin"]
    String.ofList name = "17_1234567_______000002__bin.bin" ∧
      t.place (path "dumps" .block name) = .ok (.name l) ∧
      l = t.locate "dumps/beacon_block" ++ [String.ofList name] ∧
      name ≠ fileName 17 2 ".bin" ∧ sequenceOf name = 1234567 := by
  intro name t l
  obtain ⟨-, -, places, -, sequence, apart⟩ := names_confined 17 1234567 "../é\x00_000002_.bin"
  have placed : t.place (path "dumps" .block name) = .ok (.name l) := by decide +kernel
  constructor
  · decide +kernel
  constructor
  · exact placed
  constructor
  · exact (places t "dumps" .block).2.2 l placed
  constructor
  · exact apart 17 2 ".bin" (by decide)
  · exact sequence

end Dump

end BeaconGossip
