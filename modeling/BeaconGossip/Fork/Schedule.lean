import BeaconGossip.Error
import BeaconGossip.Fork

namespace BeaconGossip

structure Schedule where
  forks : List Fork
  genesisRoot : Option Root
  known : List ((Version × Root) × ForkDigest)

namespace Schedule

/-- Unscheduled forks are dropped; forks of one epoch keep their order. -/
def ofForks (forks : List Fork) (genesisRoot : Option Root) : Schedule where
  forks := (forks.filter (·.epoch ≠ Fork.unscheduledEpoch)).mergeSort (·.epoch ≤ ·.epoch)
  genesisRoot := genesisRoot
  known := []

def setGenesisRoot (s : Schedule) (root : Root) : Schedule := { s with genesisRoot := some root }

/-- The last fork that is active at the epoch. -/
def forkAt (s : Schedule) (epoch : Epoch) : Except GossipError Fork :=
  match s.forks.reverse.find? (·.epoch ≤ epoch) with
  | some fork => .ok fork
  | none => .error (.unknownFork epoch)

/-- The epoch at which the next fork after the given epoch starts. -/
def nextForkEpoch (s : Schedule) (epoch : Epoch) : Option Epoch :=
  (s.forks.map (·.epoch)).find? (epoch < ·)

def rootUnknown : GossipError := .chainUnavailable "genesis validators root not yet known"

/-- Digest of the fork active at the epoch. A digest is computed once per version and root. -/
def digestAt (s : Schedule) (epoch : Epoch) : Except GossipError ForkDigest × Schedule :=
  match s.forkAt epoch with
  | .error e => (.error e, s)
  | .ok fork =>
    match s.genesisRoot with
    | none => (.error rootUnknown, s)
    | some root =>
      match s.known.lookup (fork.currentVersion, root) with
      | some digest => (.ok digest, s)
      | none =>
        let digest := ForkDigest.compute fork.currentVersion root
        (.ok digest, { s with known := ((fork.currentVersion, root), digest) :: s.known })

end Schedule

end BeaconGossip
