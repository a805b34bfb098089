import BeaconGossip.Error

namespace BeaconGossip

structure SubnetId where
  index : UInt64
  deriving DecidableEq

namespace SubnetId

def toNat (id : SubnetId) : Nat := id.index.toNat

/-- The index, provided it is below the number of subnets. -/
def check (index count : UInt64) : Except GossipError SubnetId :=
  if index < count then .ok ⟨index⟩ else .error (.invalidSubnet index count)

def toString (id : SubnetId) : String := ToString.toString id.toNat

end SubnetId

namespace Subnet

def slotsPerEpoch : UInt64 := 32

def defaultCount : UInt64 := 64

/-- Product that stops at the largest word. -/
def saturatingMul (a b : UInt64) : UInt64 :=
  if a.toNat * b.toNat < UInt64.size then a * b else UInt64.ofNat (UInt64.size - 1)

/-- Committees of the epoch's earlier slots plus the committee's own index, counted around the
subnets. A count of zero counts as one. -/
def ofCommittee (committeesPerSlot slot committee count : UInt64) : SubnetId :=
  let before := saturatingMul committeesPerSlot (slot % slotsPerEpoch)
  ⟨(before + committee) % (if count = 0 then 1 else count)⟩

end Subnet

end BeaconGossip
