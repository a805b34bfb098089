import BeaconGossip.Octets

namespace BeaconGossip

/-- The digits of an alphabet, zero first. -/
abbrev Numeral := List Char

namespace Numeral

/-- Digits of a number, the last first. -/
def digits (base n : Nat) : List Nat :=
  if _h : base ≤ 1 ∨ n = 0 then [] else n % base :: digits base (n / base)
termination_by n
decreasing_by exact Nat.div_lt_self (by omega) (by omega)

def ofDigits (base : Nat) (digits : List Nat) : Nat := digits.foldl (fun n d => base * n + d) 0

/-- Goes over from one base to another, with the highest digit first in both. -/
def rebase (base newBase : Nat) (ds : List Nat) : List Nat :=
  (ds.takeWhile (· = 0)) ++ (digits newBase (ofDigits base ds)).reverse

def encode (alphabet : Numeral) (bytes : Bytes) : String :=
  String.ofList ((rebase 256 alphabet.length (bytes.map (·.toNat))).map (alphabet.getD · ' '))

def digit? (alphabet : Numeral) (c : Char) : Option Nat :=
  let i := alphabet.idxOf c
  if i < alphabet.length then some i else none

def decode? (alphabet : Numeral) (text : List Char) : Option Bytes :=
  (text.mapM (digit? alphabet)).map fun ds =>
    (rebase alphabet.length 256 ds).map UInt8.ofNat

def decimal : Numeral := "0123456789".toList

/-- Digits and small letters. -/
def base36 : Numeral := "0123456789abcdefghijklmnopqrstuvwxyz".toList

/-- Digits, capitals and small letters without those that look alike. -/
def base58 : Numeral := "123456789ABCDEFGHJKLMNPQRSTUVWXYZabcdefghijkmnopqrstuvwxyz".toList

/-- The same symbols with the small letters before the capitals. -/
def base58Swapped : Numeral :=
  "123456789abcdefghijkmnopqrstuvwxyzABCDEFGHJKLMNPQRSTUVWXYZ".toList

end Numeral

end BeaconGossip
