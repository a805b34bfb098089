import BeaconGossip.Controller

namespace BeaconGossip

/-- Which of its channels an object means. -/
inductive Lane where
  | sole
  | ofClass (c : MessageClass)
  | subnet (id : SubnetId)
  deriving DecidableEq

inductive GossipObject where
  | controller (c : Controller)
  | manager (m : TopicManager)
  | subnets (s : SubnetSet)
  | channel (c : Channel)
  deriving DecidableEq

namespace SubnetSet

def lanes (s : SubnetSet) : List (Lane × Channel) :=
  s.channels.map fun (id, c) => (.subnet id, c)

end SubnetSet

namespace Managers

def lanes (m : Managers) : List (Lane × Channel) :=
  m.attestation.lanes ++ m.topics.map fun t => (.ofClass t.cls, t.channel)

def onLane (m : Managers) (lane : Lane) (f : Channel → Channel) : Managers :=
  match lane with
  | .sole => m
  | .subnet id => { m with attestation := m.attestation.onChannel id f }
  | .ofClass c =>
    { m with topics := m.topics.map fun t => if t.cls = c then ⟨f t.channel⟩ else t }

end Managers

namespace GossipObject

/-- The channels of an object, in the order in which a common request reaches them. -/
def lanes : GossipObject → List (Lane × Channel)
  | controller c => (c.managers.map Managers.lanes).getD []
  | manager m => [(.sole, m.channel)]
  | subnets s => s.lanes
  | channel c => [(.sole, c)]

def channel? (o : GossipObject) (lane : Lane) : Option Channel := o.lanes.lookup lane

def onLane (o : GossipObject) (lane : Lane) (f : Channel → Channel) : GossipObject :=
  match o, lane with
  | controller c, lane => controller { c with managers := c.managers.map (·.onLane lane f) }
  | manager m, .sole => manager ⟨f m.channel⟩
  | subnets s, .subnet id => subnets (s.onChannel id f)
  | channel c, .sole => channel (f c)
  | o, _ => o

def unfinished (o : GossipObject) (lane : Lane) : Nat :=
  ((o.channel? lane).map (·.unfinished)).getD 0

/-- One lane for every task that the later form of an object has more than the earlier one. -/
def spawned (earlier later : GossipObject) : List Lane :=
  later.lanes.flatMap fun (lane, c) =>
    List.replicate (c.unfinished - earlier.unfinished lane) lane

end GossipObject

end BeaconGossip
