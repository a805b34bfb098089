import BeaconGossip.Octets

namespace BeaconGossip

inductive WireError where
  | unexpectedEnd
  | badBool (found : UInt8)
  deriving DecidableEq

def WireError.message : WireError → String
  | .unexpectedEnd => "io error: unexpected end of file"
  | .badBool found =>
    "invalid u8 while decoding bool, expected 0 or 1, found " ++ toString found.toNat

structure Codec (α : Type) where
  write : α → Bytes
  read : Bytes → Except WireError (α × Bytes)

namespace Codec

def octets (n : Nat) : Codec (Octets n) where
  write o := o.1
  read bs :=
    match Bytes.splitExact n bs with
    | some (o, rest) => .ok (o, rest)
    | none => .error .unexpectedEnd

def byte : Codec UInt8 where
  write b := [b]
  read
    | [] => .error .unexpectedEnd
    | b :: rest => .ok (b, rest)

def bool : Codec Bool where
  write b := [if b then 1 else 0]
  read
    | [] => .error .unexpectedEnd
    | b :: rest =>
      if b = 0 then .ok (false, rest) else if b = 1 then .ok (true, rest) else .error (.badBool b)

/-- One value after the other. -/
def pair {α β : Type} (a : Codec α) (b : Codec β) : Codec (α × β) where
  write v := a.write v.1 ++ b.write v.2
  read bs :=
    match a.read bs with
    | .error e => .error e
    | .ok (x, rest) =>
      match b.read rest with
      | .error e => .error e
      | .ok (y, rest) => .ok ((x, y), rest)

/-- The same bytes for another type of value. -/
def map {α β : Type} (c : Codec α) (forth : α → β) (back : β → α) : Codec β where
  write v := c.write (back v)
  read bs :=
    match c.read bs with
    | .error e => .error e
    | .ok (x, rest) => .ok (forth x, rest)

def word : Codec UInt64 :=
  (octets 8).map (fun o => UInt64.ofNat (Bytes.ofLittleEndian o.1))
    (fun w => Bytes.littleEndian 8 w.toNat)

/-- Reads `n` values one after the other. -/
def readMany {α : Type} (c : Codec α) : Nat → Bytes → Except WireError (List α × Bytes)
  | 0, bs => .ok ([], bs)
  | n + 1, bs =>
    match c.read bs with
    | .error e => .error e
    | .ok (x, rest) =>
      match readMany c n rest with
      | .error e => .error e
      | .ok (xs, rest) => .ok (x :: xs, rest)

/-- The length, then the elements. A claimed length is not checked beforehand: elements are read
until one fails. -/
def list {α : Type} (c : Codec α) : Codec (List α) where
  write xs := word.write (UInt64.ofNat xs.length) ++ xs.flatMap c.write
  read bs :=
    match word.read bs with
    | .error e => .error e
    | .ok (n, rest) => c.readMany n.toNat rest

def bytes : Codec Bytes := byte.list

end Codec

end BeaconGossip
