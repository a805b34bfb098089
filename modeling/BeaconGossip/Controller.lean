import BeaconGossip.Fork.Schedule
import BeaconGossip.SubnetSet
import BeaconGossip.TopicManager

namespace BeaconGossip

/-- The managers of a fork that has been started. -/
structure Managers where
  info : ForkInfo
  digest : ForkDigest
  attestation : SubnetSet
  topics : List TopicManager
  deriving DecidableEq

structure Controller where
  fork : Fork
  settings : Settings
  managers : Option Managers
  /-- Ascending. -/
  waiting : List SubnetId
  deriving DecidableEq

namespace Managers

def fresh (settings : Settings) (info : ForkInfo) (digest : ForkDigest) : Managers where
  info := info
  digest := digest
  attestation := .fresh settings digest
  topics := (MessageClass.all.filter (· ≠ .attestation)).map (.ofClass settings digest)

def topic? (m : Managers) (c : MessageClass) : Option TopicManager := m.topics.find? (·.cls = c)

/-- The managers that may run on a head of the given kind. -/
def mayRun (optimistic : Bool) (c : MessageClass) : Bool := c.runsOptimistically || !optimistic

def subscribe (m : Managers) (optimistic : Bool) : Managers where
  info := m.info
  digest := m.digest
  attestation :=
    if mayRun optimistic .attestation then m.attestation.subscribe else m.attestation
  topics := m.topics.map fun t => if mayRun optimistic t.cls then t.subscribe else t

/-- Unsubscribes all managers, or only those that must not run on an optimistic head. -/
def unsubscribe (m : Managers) (all : Bool) : Managers where
  info := m.info
  digest := m.digest
  attestation :=
    if all || !mayRun true .attestation then m.attestation.unsubscribe else m.attestation
  topics := m.topics.map fun t => if all || !mayRun true t.cls then t.unsubscribe else t

/-- The class of each manager in building order, with whether it is subscribed. -/
def subscriptions (m : Managers) : List (MessageClass × Bool) :=
  (.attestation, m.attestation.isActive) :: m.topics.map fun t => (t.cls, t.isSubscribed)

end Managers

namespace Controller

def ofFork (fork : Fork) (settings : Settings) : Controller := ⟨fork, settings, none, []⟩

def isStarted (c : Controller) : Bool := c.managers.isSome

def info (c : Controller) : Option ForkInfo := c.managers.map (·.info)

def digest (c : Controller) : Option ForkDigest := c.managers.map (·.digest)

/-- Builds the managers unless they exist. The schedule names the digest. -/
def build (c : Controller) (root : Root) (schedule : Schedule) (r : Registry) :
    Except GossipError (Controller × Schedule × Registry) :=
  match c.managers with
  | some _ => .ok (c, schedule, r)
  | none =>
    match schedule.digestAt c.fork.epoch with
    | (.error e, _) => .error e
    | (.ok digest, schedule) =>
      let m := Managers.fresh c.settings ⟨c.fork, root⟩ digest
      .ok ({ c with managers := some m }, schedule, r.touch m.attestation.gauge)

/-- Hands the waiting subnets over to the attestation manager. -/
def handOver (c : Controller) (r : Registry) : Controller × Registry :=
  match c.managers with
  | none => (c, r)
  | some m =>
    let (subnets, r) :=
      c.waiting.foldl (fun (s, r) id => SubnetSet.request s id r) (m.attestation, r)
    ({ c with managers := some { m with attestation := subnets }, waiting := [] }, r)

def subscribe (c : Controller) (optimistic : Bool) : Controller :=
  { c with managers := c.managers.map (·.subscribe optimistic) }

/-- Builds the managers on first use and subscribes those that may run. A start that fails changes
nothing; the root given to a later start does not count. -/
def start (c : Controller) (root : Root) (optimistic : Bool) (schedule : Schedule) (r : Registry) :
    Except GossipError (Controller × Schedule × Registry) :=
  match c.build root schedule r with
  | .error e => .error e
  | .ok (c, schedule, r) =>
    let (c, r) := c.handOver r
    .ok (c.subscribe optimistic, schedule, r)

def stop (c : Controller) : Controller :=
  { c with managers := c.managers.map (·.unsubscribe true) }

/-- Unsubscribes the managers that must not run on an optimistic head. -/
def stopOptimistic (c : Controller) : Controller :=
  { c with managers := c.managers.map (·.unsubscribe false) }

/-- Asks for a subnet, which must be within the subnet count. -/
def requestSubnet (c : Controller) (index : UInt64) (r : Registry) :
    Except GossipError (Controller × Registry) :=
  match SubnetId.check index c.settings.subnetCount with
  | .error e => .error e
  | .ok id =>
    match c.managers with
    | none => .ok ({ c with waiting := id.insert c.waiting }, r)
    | some m =>
      let (subnets, r) := m.attestation.request id r
      .ok ({ c with managers := some { m with attestation := subnets } }, r)

def releaseSubnet (c : Controller) (index : UInt64) (r : Registry) :
    Except GossipError (Controller × Registry) :=
  match SubnetId.check index c.settings.subnetCount with
  | .error e => .error e
  | .ok id =>
    match c.managers with
    | none => .ok ({ c with waiting := c.waiting.filter (· ≠ id) }, r)
    | some m =>
      let (subnets, r) := m.attestation.release id r
      .ok ({ c with managers := some { m with attestation := subnets } }, r)

/-- Offers a message to the manager of its class. -/
def publish (c : Controller) (message : Message) (h : Hub) : Publishing × Hub :=
  match c.managers with
  | none => (.refused .notStarted, h)
  | some m =>
    match m.topic? message.cls with
    | none => (.refused .notStarted, h)
    | some t => t.offer message h

/-- Offers the attestation to its subnet and to the aggregate topic. -/
def publishAttestation (c : Controller) (a : GossipAttestation) (h : Hub) :
    GossipAttestation × Controller × Hub :=
  match c.managers with
  | none => (a, c, h)
  | some m =>
    let (a, subnets, h) := m.attestation.offer a h
    let c := { c with managers := some { m with attestation := subnets } }
    match m.topic? .aggregate with
    | none => (a, c, h)
    | some t =>
      let (a, h) := t.offerAggregate a h
      (a, c, h)

/-- Attestation subnets with a confirmed subscription. -/
def subscribedSubnets (c : Controller) : List SubnetId :=
  match c.managers with
  | none => []
  | some m => m.attestation.subscribed

end Controller

end BeaconGossip
