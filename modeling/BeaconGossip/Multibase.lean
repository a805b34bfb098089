import BeaconGossip.Multibase.BitText
import BeaconGossip.Multibase.Numeral
import BeaconGossip.Text.Utf8

namespace BeaconGossip

inductive MultibaseError where
  | invalid
  | unknownCode (code : Char)
  deriving DecidableEq

def MultibaseError.message : MultibaseError → String
  | .invalid => "Invalid base string"
  | .unknownCode code => "Unknown base code: " ++ code.toString

inductive Multibase where
  /-- The bytes of the text itself. -/
  | plain
  | bits (t : BitText)
  | numeral (alphabet : Numeral)
  /-- The same without regard to the case of letters; the alphabet has small ones. -/
  | numeralAnyCase (alphabet : Numeral)

namespace Multibase

def base2 : BitText := ⟨"01".toList, 1, false, none⟩

def base8 : BitText := ⟨"01234567".toList, 3, false, none⟩

def base16 : BitText := ⟨"0123456789abcdef".toList, 4, true, none⟩

def base32 : BitText := ⟨"abcdefghijklmnopqrstuvwxyz234567".toList, 5, true, none⟩

def base32Capital : BitText := ⟨"ABCDEFGHIJKLMNOPQRSTUVWXYZ234567".toList, 5, false, some 8⟩

def base32Hex : BitText := ⟨"0123456789abcdefghijklmnopqrstuv".toList, 5, true, none⟩

/-- Symbols that are easy to tell apart by eye and ear. -/
def base32Human : BitText := ⟨"ybndrfg8ejkmcpqxot1uwisza345h769".toList, 5, false, none⟩

def base64 : BitText :=
  ⟨"ABCDEFGHIJKLMNOPQRSTUVWXYZabcdefghijklmnopqrstuvwxyz0123456789+/".toList, 6, false, none⟩

/-- Symbols that need no quoting in addresses of pages. -/
def base64Address : BitText :=
  ⟨"ABCDEFGHIJKLMNOPQRSTUVWXYZabcdefghijklmnopqrstuvwxyz0123456789-_".toList, 6, false, none⟩

def ofCode? : Char → Option Multibase
  | '\x00' => some .plain
  | '0' => some (.bits base2)
  | '7' => some (.bits base8)
  | '9' => some (.numeral .decimal)
  | 'f' | 'F' => some (.bits base16)
  | 'b' | 'B' => some (.bits base32)
  | 'c' | 'C' => some (.bits { base32 with block := some 8 })
  | 'v' | 'V' => some (.bits base32Hex)
  | 't' | 'T' => some (.bits { base32Hex with block := some 8 })
  | 'h' => some (.bits base32Human)
  | 'k' | 'K' => some (.numeralAnyCase .base36)
  | 'z' => some (.numeral .base58)
  | 'Z' => some (.numeral .base58Swapped)
  | 'm' => some (.bits base64)
  | 'M' => some (.bits { base64 with block := some 4 })
  | 'u' => some (.bits base64Address)
  | 'U' => some (.bits { base64Address with block := some 4 })
  | _ => none

def decodeAs? (text : List Char) : Multibase → Option Bytes
  | plain => some (Text.Utf8.encode text)
  | bits t => t.decode? text
  | numeral alphabet => alphabet.decode? text
  | numeralAnyCase alphabet => alphabet.decode? (text.map Char.toLower)

def decode : List Char → Except MultibaseError Bytes
  | [] => .error .invalid
  | code :: text =>
    match ofCode? code with
    | none => .error (.unknownCode code)
    | some base =>
      match base.decodeAs? text with
      | none => .error .invalid
      | some bytes => .ok bytes

end Multibase

end BeaconGossip
