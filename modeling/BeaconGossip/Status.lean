import BeaconGossip.Controller.Describe
import BeaconGossip.GossipObject

namespace BeaconGossip

inductive Status where
  | controller (digest : Option ForkDigest) (subscribed : List Bool) (subnets : List SubnetId)
  | manager (subscribed : Bool)
  | subnets (enabled active : Bool) (requested subscribed : List SubnetId)
  | channel (requested subscribed : Bool)
  deriving DecidableEq

structure ManagerInfo where
  cls : MessageClass
  subscribed : Bool
  runsOptimistically : Bool
  deriving DecidableEq

inductive ObjectInfo where
  | controller (fork : Fork) (info : Option ForkInfo) (digest : Option ForkDigest)
      (managers : List ManagerInfo)
  | manager (manager : ManagerInfo) (topic : String)
  | subnets (manager : ManagerInfo) (count : UInt64)
  | channel (topic : String)
  deriving DecidableEq

namespace GossipObject

def status : GossipObject → Status
  | controller c =>
    .controller c.digest (((c.managers.map (·.subscriptions)).getD []).map (·.2))
      c.subscribedSubnets
  | manager m => .manager m.isSubscribed
  | subnets s => .subnets s.enabled s.isActive s.requested s.subscribed
  | channel c => .channel c.wanted c.confirmed

def managerInfo (c : MessageClass) (subscribed : Bool) : ManagerInfo :=
  ⟨c, subscribed, c.runsOptimistically⟩

def info : GossipObject → ObjectInfo
  | controller c =>
    .controller c.fork c.info c.digest
      (((c.managers.map (·.subscriptions)).getD []).map fun (cls, s) => managerInfo cls s)
  | manager m => .manager (managerInfo m.cls m.isSubscribed) m.topic
  | subnets s => .subnets (managerInfo .attestation s.isActive) s.count
  | channel c => .channel c.topic

/-- A controller on one line and at length. -/
def describe : GossipObject → List String
  | controller c => [c.describe, c.describeAtLength]
  | _ => []

end GossipObject

end BeaconGossip
