import BeaconGossip.Channel
import BeaconGossip.Settings

namespace BeaconGossip

namespace SubnetId

/-- Puts the id into an ascending list, once. -/
def insert (id : SubnetId) : List SubnetId → List SubnetId
  | [] => [id]
  | x :: rest =>
    if id.index < x.index then id :: x :: rest
    else if id = x then x :: rest
    else x :: insert id rest

end SubnetId

structure SubnetSet where
  namer : TopicNamer
  count : UInt64
  limit : Nat
  enabled : Bool
  /-- Ascending. -/
  requested : List SubnetId
  /-- Ascending in the subnet. -/
  channels : List (SubnetId × Channel)
  deriving DecidableEq

namespace SubnetSet

def fresh (settings : Settings) (digest : ForkDigest) : SubnetSet where
  namer := settings.namer digest
  count := settings.subnetCount
  limit := settings.limit
  enabled := false
  requested := []
  channels := []

/-- The number of requested subnets, per fork digest. -/
def gauge (s : SubnetSet) : Registry.Series := .attestationSubnets s.namer.digest

def newChannel (s : SubnetSet) (id : SubnetId) : Channel :=
  .fresh ⟨.attestation, s.namer.topic (.subnet id), some id⟩ s.limit

def channel? (s : SubnetSet) (id : SubnetId) : Option Channel := s.channels.lookup id

/-- Changes the channel of the subnet; if there is none yet, it starts from the given one. -/
def upsert (id : SubnetId) (start : Channel) (f : Channel → Channel) :
    List (SubnetId × Channel) → List (SubnetId × Channel)
  | [] => [(id, f start)]
  | (x, c) :: rest =>
    if id.index < x.index then (id, f start) :: (x, c) :: rest
    else if id = x then (x, f c) :: rest
    else (x, c) :: upsert id start f rest

/-- Opens the channel of the subnet if need be, and changes it. -/
def withChannel (s : SubnetSet) (id : SubnetId) (f : Channel → Channel) : SubnetSet :=
  { s with channels := upsert id (s.newChannel id) f s.channels }

/-- Changes a channel that is open. -/
def onChannel (s : SubnetSet) (id : SubnetId) (f : Channel → Channel) : SubnetSet :=
  { s with channels := s.channels.map fun (x, c) => if x = id then (x, f c) else (x, c) }

/-- Nothing happens if the subnet is requested already. -/
def request (s : SubnetSet) (id : SubnetId) (r : Registry) : SubnetSet × Registry :=
  if id ∈ s.requested then (s, r)
  else
    let s := { s with requested := id.insert s.requested }
    (if s.enabled then s.withChannel id Channel.subscribe else s, r.increment s.gauge)

/-- Nothing happens if the subnet is not requested. -/
def release (s : SubnetSet) (id : SubnetId) (r : Registry) : SubnetSet × Registry :=
  if id ∈ s.requested then
    let s := { s with requested := s.requested.filter (· ≠ id) }
    (s.onChannel id Channel.unsubscribe, r.decrement s.gauge)
  else (s, r)

/-- Turns attestation gossip on and joins every requested subnet. -/
def subscribe (s : SubnetSet) : SubnetSet :=
  s.requested.foldl (fun s id => s.withChannel id Channel.subscribe) { s with enabled := true }

/-- Leaves every subnet but remembers which were requested. -/
def unsubscribe (s : SubnetSet) : SubnetSet :=
  { s with
    enabled := false
    channels := s.channels.map fun (id, c) => (id, c.unsubscribe) }

def isConfirmed (s : SubnetSet) (id : SubnetId) : Bool := (s.channel? id).any (·.confirmed)

/-- Turned on, with every requested subnet confirmed. -/
def isActive (s : SubnetSet) : Bool := s.enabled && s.requested.all s.isConfirmed

/-- The subnets whose subscription the overlay has confirmed. -/
def subscribed (s : SubnetSet) : List SubnetId := (s.channels.filter (·.2.confirmed)).map (·.1)

/-- Publishes on the subnet of the attestation, whether or not it is joined. -/
def gossip (s : SubnetSet) (a : GossipAttestation) (h : Hub) : Publishing × SubnetSet × Hub :=
  let id := a.subnet s.count
  let (p, h) := ((s.channel? id).getD (s.newChannel id)).publish
    (Message.attestation a.attestation).encode h
  (p, s.withChannel id (fun c => c), h)

/-- Publishes an attestation that is no aggregate and has not been gossiped. The mark is left alone
while attestation gossip is off. -/
def offer (s : SubnetSet) (a : GossipAttestation) (h : Hub) :
    GossipAttestation × SubnetSet × Hub :=
  let h := h.count (.publishRequests .attestation)
  if a.aggregate.isNone && s.enabled then
    match a.mark with
    | (true, marked) =>
      let (_, s, h) := s.gossip a h
      (marked, s, h)
    | (false, marked) => (marked, s, h)
  else (a, s, h)

end SubnetSet

end BeaconGossip
