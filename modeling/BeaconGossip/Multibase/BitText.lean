import BeaconGossip.Octets

namespace BeaconGossip

structure BitText where
  symbols : List Char
  /-- Bits of a symbol. -/
  width : Nat
  /-- Letters count in either case. -/
  anyCase : Bool
  /-- Symbols of a block, if the text is filled up to full blocks. -/
  block : Option Nat

namespace BitText

def padding : Char := '='

def index? (symbols : List Char) (c : Char) : Option Nat :=
  let i := symbols.idxOf c
  if i < symbols.length then some i else none

def value? (t : BitText) (c : Char) : Option Nat :=
  match index? t.symbols c with
  | some n => some n
  | none =>
    if t.anyCase then (index? t.symbols c.toLower).or (index? t.symbols c.toUpper) else none

/-- The lowest bits of a number, the highest of them first. -/
def bits (width n : Nat) : List Bool :=
  (List.range width).reverse.map n.testBit

/-- The bytes of the bits, with what is left after the last whole byte. -/
def octets : List Bool → Bytes × List Bool
  | b₇ :: b₆ :: b₅ :: b₄ :: b₃ :: b₂ :: b₁ :: b₀ :: rest =>
    let n := [b₇, b₆, b₅, b₄, b₃, b₂, b₁, b₀].foldl (fun n b => 2 * n + b.toNat) 0
    let (bytes, left) := octets rest
    (UInt8.ofNat n :: bytes, left)
  | left => ([], left)

/-- Decodes symbols without padding. What is left is less than a symbol, and zero. -/
def decodeSymbols (t : BitText) (text : List Char) : Option Bytes := do
  let values ← text.mapM t.value?
  let (bytes, left) := octets (values.flatMap (bits t.width))
  if left.length < t.width && left.all (! ·) then pure bytes else none

/-- Decodes a block, of which the end may be padding. -/
def decodeBlock (t : BitText) (block : List Char) : Option Bytes :=
  let used := (block.reverse.dropWhile (· = padding)).reverse
  if used.isEmpty then none else t.decodeSymbols used

/-- Blocks of the same length; the last may be shorter. -/
def blocks (n : Nat) (text : List Char) : List (List Char) :=
  if h : n = 0 ∨ text = [] then []
  else
    have : 0 < text.length := List.length_pos_iff.2 (not_or.1 h).2
    text.take n :: blocks n (text.drop n)
termination_by text.length
decreasing_by
  simp only [List.length_drop]
  omega

/-- Decodes a text; blocks that are padded may also stand before others. -/
def decode? (t : BitText) (text : List Char) : Option Bytes :=
  match t.block with
  | none => t.decodeSymbols text
  | some n =>
    if text.length % n = 0 then ((blocks n text).mapM t.decodeBlock).map List.flatten else none

end BitText

end BeaconGossip
