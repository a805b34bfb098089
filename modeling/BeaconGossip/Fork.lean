import BeaconGossip.Hash.Sha256
import BeaconGossip.Hex

namespace BeaconGossip

abbrev Epoch := UInt64
abbrev Version := Octets 4
abbrev Root := Octets 32

structure Fork where
  previousVersion : Version
  currentVersion : Version
  epoch : Epoch
  deriving DecidableEq

/-- Stands for an upgrade whose epoch is not decided. -/
def Fork.unscheduledEpoch : Epoch := UInt64.ofNat (UInt64.size - 1)

structure ForkInfo where
  fork : Fork
  genesisRoot : Root
  deriving DecidableEq

structure ForkDigest where
  bytes : Octets 4
  deriving DecidableEq

namespace ForkDigest

def toString (d : ForkDigest) : String := Hex.toString d.bytes.1

/-- The form shown in diagnostics. -/
def describe (d : ForkDigest) : String := "ForkDigest(0x" ++ d.toString ++ ")"

def ofString (text : String) : Except HexError ForkDigest :=
  match Hex.read 4 text with
  | .ok bytes => .ok ⟨bytes⟩
  | .error e => .error e

/-- Hash of two chunks: the version filled up with zeros, and the root. -/
def dataRoot (version : Version) (root : Root) : Root :=
  Hash.sha256 (version.1 ++ List.replicate 28 0 ++ root.1)

def compute (version : Version) (root : Root) : ForkDigest :=
  ⟨(dataRoot version root).take 4 (by decide)⟩

end ForkDigest

end BeaconGossip
