import BeaconGossip.Octets
import BeaconGossip.Text.CharLiteral
import BeaconGossip.Text.Utf8

namespace BeaconGossip

inductive HexError where
  | oddLength
  | wrongLength
  | badCharacter (found : UInt8) (position : Nat)
  deriving DecidableEq

def HexError.message : HexError → String
  | .oddLength => "Odd number of digits"
  | .wrongLength => "Invalid string length"
  | .badCharacter found position =>
    "Invalid character " ++ Text.charLiteral (Char.ofNat found.toNat) ++
      " at position " ++ toString position

namespace Hex

/-- Value of the digit whose character code is the byte. -/
def digit? (b : UInt8) : Option Nat :=
  if 48 ≤ b.toNat ∧ b.toNat ≤ 57 then some (b.toNat - 48)
  else if 97 ≤ b.toNat ∧ b.toNat ≤ 102 then some (b.toNat - 87)
  else if 65 ≤ b.toNat ∧ b.toNat ≤ 70 then some (b.toNat - 55)
  else none

def digitAt (b : UInt8) (position : Nat) : Except HexError Nat :=
  match digit? b with
  | some d => .ok d
  | none => .error (.badCharacter b position)

/-- Reads pairs of digits, of which the first stands at `position`. -/
def pairs (position : Nat) : Bytes → Except HexError Bytes
  | hi :: lo :: rest => do
    let h ← digitAt hi position
    let l ← digitAt lo (position + 1)
    let bytes ← pairs (position + 2) rest
    pure (UInt8.ofNat (16 * h + l) :: bytes)
  | _ => .ok []

theorem length_of_pairs {position : Nat} {digits bytes : Bytes}
    (h : pairs position digits = .ok bytes) : bytes.length = digits.length / 2 := by
  fun_induction pairs position digits generalizing bytes with
  | case1 position hi lo rest ih =>
    cases hh : digitAt hi position with
    | error e => simp [hh, bind, Except.bind] at h
    | ok x =>
      cases hl : digitAt lo (position + 1) with
      | error e => simp [hh, hl, bind, Except.bind] at h
      | ok y =>
        cases hp : pairs (position + 2) rest with
        | error e => simp [hh, hl, hp, bind, Except.bind] at h
        | ok bs =>
          simp only [hh, hl, hp, bind, Except.bind, pure, Except.pure, Except.ok.injEq] at h
          subst h
          simp only [List.length_cons, ih hp]
          omega
  | case2 ds _ short =>
    simp only [Except.ok.injEq] at h
    subst h
    match ds with
    | [] => rfl
    | [_] => simp
    | hi :: lo :: rest => exact (short hi lo rest rfl).elim

/-- Leaves out every leading `0x`. -/
def stripMarks : List Char → List Char
  | '0' :: 'x' :: rest => stripMarks rest
  | text => text

/-- Reads the digits of exactly `n` bytes. -/
def decode (n : Nat) (digits : Bytes) : Except HexError (Octets n) :=
  if digits.length % 2 = 1 then .error .oddLength
  else if hn : digits.length = 2 * n then
    match h : pairs 0 digits with
    | .error e => .error e
    | .ok bytes => .ok ⟨bytes, by rw [length_of_pairs h, hn]; omega⟩
  else .error .wrongLength

/-- Reads a field as written: leading marks do not count, lengths and positions are in bytes. -/
def read (n : Nat) (text : String) : Except HexError (Octets n) :=
  decode n (Text.Utf8.encode (stripMarks text.toList))

def write (bytes : Bytes) : List Char :=
  bytes.flatMap fun b => [Text.lowerHexDigit (b.toNat / 16), Text.lowerHexDigit (b.toNat % 16)]

def toString (bytes : Bytes) : String := String.ofList (write bytes)

end Hex

end BeaconGossip
