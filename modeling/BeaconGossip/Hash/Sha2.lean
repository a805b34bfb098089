import BeaconGossip.Octets

namespace BeaconGossip.Hash

/-- Arithmetic of one word size. -/
class Word (W : Type) extends Add W, HXor W W W, HAnd W W W, Complement W where
  rotateRight : W → Nat → W
  shiftRight : W → Nat → W
  /-- Bytes in a word. -/
  width : Nat
  ofNat : Nat → W
  toNat : W → Nat

/-- Amounts of the three rotations, or of two rotations and a shift. -/
structure Amounts where
  first : Nat
  second : Nat
  third : Nat

structure Variant (W : Type) where
  initial : List W
  constants : List W
  upperA : Amounts
  upperE : Amounts
  lower15 : Amounts
  lower2 : Amounts

structure State (W : Type) where
  a : W
  b : W
  c : W
  d : W
  e : W
  f : W
  g : W
  h : W

variable {W : Type} [Word W]

def mixRotations (m : Amounts) (x : W) : W :=
  Word.rotateRight x m.first ^^^ Word.rotateRight x m.second ^^^ Word.rotateRight x m.third

def mixShift (m : Amounts) (x : W) : W :=
  Word.rotateRight x m.first ^^^ Word.rotateRight x m.second ^^^ Word.shiftRight x m.third

/-- Number written by the bytes, most significant first. -/
def ofBigEndian (bytes : Bytes) : Nat := bytes.foldl (fun n b => 256 * n + b.toNat) 0

/-- `n` bytes of a number, most significant first. -/
def bigEndian (n x : Nat) : Bytes := (Bytes.littleEndian n x).1.reverse

theorem length_bigEndian (n x : Nat) : (bigEndian n x).length = n := by
  rw [bigEndian, List.length_reverse, (Bytes.littleEndian n x).2]

/-- The first `n` groups of `size` elements. -/
def groups {α : Type} (size : Nat) : Nat → List α → List (List α)
  | 0, _ => []
  | n + 1, xs => xs.take size :: groups size n (xs.drop size)

namespace Variant

/-- Adds `n` words to the schedule, which is held latest first. -/
def extend (v : Variant W) : Nat → List W → List W
  | 0, words => words
  | n + 1, words =>
    let at' (i : Nat) : W := words.getD i (Word.ofNat 0)
    let next := mixShift v.lower2 (at' 1) + at' 6 + mixShift v.lower15 (at' 14) + at' 15
    extend v n (next :: words)

def schedule (v : Variant W) (block : List W) : List W :=
  (v.extend (v.constants.length - 16) block.reverse).reverse

def round (v : Variant W) (s : State W) (step : W × W) : State W :=
  let choice := (s.e &&& s.f) ^^^ (~~~s.e &&& s.g)
  let majority := (s.a &&& s.b) ^^^ (s.a &&& s.c) ^^^ (s.b &&& s.c)
  let t := s.h + mixRotations v.upperE s.e + choice + step.1 + step.2
  { a := t + mixRotations v.upperA s.a + majority
    b := s.a
    c := s.b
    d := s.c
    e := s.d + t
    f := s.e
    g := s.f
    h := s.g }

def compress (v : Variant W) (s : State W) (block : List W) : State W :=
  let r := (v.constants.zip (v.schedule block)).foldl v.round s
  { a := s.a + r.a, b := s.b + r.b, c := s.c + r.c, d := s.d + r.d
    e := s.e + r.e, f := s.f + r.f, g := s.g + r.g, h := s.h + r.h }

/-- The message, a one bit, zeros up to a whole block, and the length in bits in two words. -/
def pad (_ : Variant W) (message : Bytes) : Bytes :=
  let width := Word.width W
  let used := (message.length + 1 + 2 * width) % (16 * width)
  let zeros := (16 * width - used) % (16 * width)
  message ++ 0x80 :: (List.replicate zeros 0 ++ bigEndian (2 * width) (8 * message.length))

def start (v : Variant W) : State W :=
  let at' (i : Nat) : W := v.initial.getD i (Word.ofNat 0)
  ⟨at' 0, at' 1, at' 2, at' 3, at' 4, at' 5, at' 6, at' 7⟩

def run (v : Variant W) (message : Bytes) : State W :=
  let width := Word.width W
  let padded := v.pad message
  let words := (groups width (padded.length / width) padded).map fun g => Word.ofNat (ofBigEndian g)
  (groups 16 (words.length / 16) words).foldl v.compress v.start

def digest (v : Variant W) (message : Bytes) : Octets (8 * Word.width W) :=
  let s := v.run message
  ⟨[s.a, s.b, s.c, s.d, s.e, s.f, s.g, s.h].flatMap fun w =>
      bigEndian (Word.width W) (Word.toNat w), by
    simp only [List.flatMap_cons, List.flatMap_nil, List.length_append, length_bigEndian,
      List.length_nil]
    omega⟩

end Variant

end BeaconGossip.Hash
