import BeaconGossip.Container
import BeaconGossip.Subnet

namespace BeaconGossip

structure GossipAttestation where
  attestation : Attestation
  /-- The signed aggregate of which this is the inner attestation. -/
  aggregate : Option SignedAggregate
  receivedSubnet : Option SubnetId
  committeesPerSlot : UInt64
  gossiped : Bool
  deriving DecidableEq

namespace GossipAttestation

def ofValidator (a : Attestation) (committeesPerSlot : UInt64) : GossipAttestation :=
  ⟨a, none, none, committeesPerSlot, false⟩

def aggregateOfValidator (a : SignedAggregate) (committeesPerSlot : UInt64) : GossipAttestation :=
  ⟨a.content.aggregate, some a, none, committeesPerSlot, false⟩

def ofNetwork (a : Attestation) (subnet : Option SubnetId) : GossipAttestation :=
  ⟨a, none, subnet, 0, true⟩

def aggregateOfNetwork (a : SignedAggregate) : GossipAttestation :=
  ⟨a.content.aggregate, some a, none, 0, true⟩

/-- The subnet it arrived on, else the one that its committee belongs to. -/
def subnet (a : GossipAttestation) (count : UInt64) : SubnetId :=
  a.receivedSubnet.getD
    (Subnet.ofCommittee a.committeesPerSlot a.attestation.data.slot a.attestation.data.committee
      count)

/-- Whether the mark was still unset, and the attestation with the mark set. -/
def mark (a : GossipAttestation) : Bool × GossipAttestation :=
  (!a.gossiped, { a with gossiped := true })

end GossipAttestation

end BeaconGossip
