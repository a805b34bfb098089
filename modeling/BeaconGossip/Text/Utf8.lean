import BeaconGossip.Octets

namespace BeaconGossip.Text.Utf8

inductive Fault where
  /-- So many bytes from the index on begin a character that the next one does not continue. -/
  | invalid (count index : Nat)
  /-- The last character, from the index on, is cut off. -/
  | incomplete (index : Nat)
  deriving DecidableEq

def Fault.message : Fault → String
  | invalid count index =>
    "invalid utf-8 sequence of " ++ toString count ++ " bytes from index " ++ toString index
  | incomplete index => "incomplete utf-8 byte sequence from index " ++ toString index

/-- A character that has begun: the index of its first byte, the number of bytes it still needs, and
the bounds of the next one. -/
structure Begun where
  index : Nat
  missing : Nat
  low : Nat
  high : Nat

/-- The character that a byte above the plain ones begins, if any. Of the second byte the bounds
are narrower where others would spell a character too long, a surrogate or no character at all. -/
def begin? (index byte : Nat) : Option Begun :=
  if 0xc2 ≤ byte ∧ byte ≤ 0xdf then some ⟨index, 1, 0x80, 0xbf⟩
  else if byte = 0xe0 then some ⟨index, 2, 0xa0, 0xbf⟩
  else if byte = 0xed then some ⟨index, 2, 0x80, 0x9f⟩
  else if 0xe1 ≤ byte ∧ byte ≤ 0xef then some ⟨index, 2, 0x80, 0xbf⟩
  else if byte = 0xf0 then some ⟨index, 3, 0x90, 0xbf⟩
  else if 0xf1 ≤ byte ∧ byte ≤ 0xf3 then some ⟨index, 3, 0x80, 0xbf⟩
  else if byte = 0xf4 then some ⟨index, 3, 0x80, 0x8f⟩
  else none

/-- Reads on at the index, between characters or inside one that has begun. -/
def scan (begun : Option Begun) (index : Nat) (bytes : Bytes) : Option Fault :=
  match begun, bytes with
  | none, [] => none
  | some b, [] => some (.incomplete b.index)
  | none, byte :: rest =>
    if byte.toNat < 0x80 then scan none (index + 1) rest
    else
      match begin? index byte.toNat with
      | none => some (.invalid 1 index)
      | some b => scan (some b) (index + 1) rest
  | some b, byte :: rest =>
    if b.low ≤ byte.toNat ∧ byte.toNat ≤ b.high then
      if b.missing = 1 then scan none (index + 1) rest
      else scan (some ⟨b.index, b.missing - 1, 0x80, 0xbf⟩) (index + 1) rest
    else some (.invalid (index - b.index) b.index)

/-- Where the bytes cease to be a text, if anywhere. -/
def fault? (bytes : Bytes) : Option Fault := scan none 0 bytes

def encode (text : List Char) : Bytes := text.flatMap String.utf8EncodeChar

/-- What is left without the first bytes; there is no answer inside a character. -/
def drop? : (count : Nat) → List Char → Option (List Char)
  | 0, text => some text
  | _ + 1, [] => none
  | count + 1, c :: rest =>
    if c.utf8Size ≤ count + 1 then drop? (count + 1 - c.utf8Size) rest else none

/-- The characters of the first bytes; there is no answer inside a character. -/
def take? : (count : Nat) → List Char → Option (List Char)
  | 0, _ => some []
  | _ + 1, [] => none
  | count + 1, c :: rest =>
    if c.utf8Size ≤ count + 1 then (take? (count + 1 - c.utf8Size) rest).map (c :: ·) else none

/-- The part between two positions. -/
def slice? (first last : Nat) (text : List Char) : Option (List Char) :=
  (drop? first text).bind (take? (last - first))

end BeaconGossip.Text.Utf8
