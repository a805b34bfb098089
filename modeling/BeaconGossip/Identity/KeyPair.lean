import BeaconGossip.Hash.Sha512
import BeaconGossip.Identity.Curve

namespace BeaconGossip.Identity

/-- The number that the seed stands for: the first half of its hash, with the lowest three bits and
the topmost bit cleared and the bit below that set. -/
def secretNumber (seed : Octets 32) : Nat :=
  let half := Bytes.ofLittleEndian ((Hash.sha512 seed.1).1.take 32)
  half % Nat.pow 2 254 / 8 * 8 + Nat.pow 2 254

def publicKey (seed : Octets 32) : Octets 32 :=
  Bytes.littleEndian 32 (CurvePoint.base.multiple 255 (secretNumber seed)).compressed

structure KeyPair where
  seed : Octets 32
  publicKey : Octets 32
  /-- The public key belongs to the seed. -/
  matched : publicKey = Identity.publicKey seed

namespace KeyPair

def ofSeed (seed : Octets 32) : KeyPair := ⟨seed, Identity.publicKey seed, rfl⟩

/-- Seed and public key in a row; they must belong together. -/
def ofBytes? (bytes : Bytes) : Option KeyPair := do
  let seed ← Octets.ofList? 32 (bytes.take 32)
  let key ← Octets.ofList? 32 (bytes.drop 32)
  if h : key = Identity.publicKey seed then pure ⟨seed, key, h⟩ else none

def toBytes (k : KeyPair) : Bytes := k.seed.1 ++ k.publicKey.1

end KeyPair

end BeaconGossip.Identity
