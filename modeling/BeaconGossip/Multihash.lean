import BeaconGossip.Varint

namespace BeaconGossip

inductive MultihashError where
  | unfinished
  | tooLong
  | padded
  /-- A length above the limit, or the number of bytes that follow the hash. -/
  | wrongSize (size : Nat)
  | short
  deriving DecidableEq

def MultihashError.message : MultihashError → String
  | .unfinished => "unexpected end of file"
  | .tooLong => "input bytes exceed maximum"
  | .padded => "encoding is not minimal"
  | .wrongSize size => "Invalid multihash size " ++ toString size ++ "."
  | .short => "failed to fill whole buffer"

structure Multihash where
  code : Nat
  digest : Bytes
  deriving DecidableEq

namespace Multihash

def sizeLimit : Nat := 64

/-- A number of 64 bits, of which those above do not count. -/
def readNumber (bytes : Bytes) : Except MultihashError (Nat × Bytes) :=
  match Varint.take Varint.digitLimit bytes with
  | .error .unfinished => .error .unfinished
  | .error .tooLong => .error .tooLong
  | .ok (digits, rest) =>
    if Varint.isPadded digits then .error .padded
    else .ok (Varint.value digits % UInt64.size, rest)

def decode (bytes : Bytes) : Except MultihashError Multihash := do
  let (code, rest) ← readNumber bytes
  let (size, rest) ← readNumber rest
  if sizeLimit < size then throw (.wrongSize size)
  else if rest.length < size then throw .short
  else if size < rest.length then throw (.wrongSize (rest.length - size))
  else pure ⟨code, rest⟩

end Multihash

end BeaconGossip
