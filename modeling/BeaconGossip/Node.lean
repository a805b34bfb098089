import BeaconGossip.GossipObject

namespace BeaconGossip

namespace Node

/-- Names a channel: the number of its object, and the lane. -/
structure Address where
  object : Nat
  lane : Lane
  deriving DecidableEq

end Node

structure Node where
  schedule : Schedule
  settings : Settings
  hub : Hub
  objects : List GossipObject
  attestations : List GossipAttestation
  /-- The channel of every unfinished reconcile task; the oldest task comes first. -/
  tasks : List Node.Address

namespace Node

def fresh (settings : Settings) (schedule : Schedule) : Node where
  schedule := schedule
  settings := settings
  hub := .idle
  objects := []
  attestations := []
  tasks := []

def channel? (node : Node) (a : Address) : Option Channel :=
  (node.objects[a.object]?).bind (·.channel? a.lane)

def unfinished (node : Node) (a : Address) : Nat := ((node.channel? a).map (·.unfinished)).getD 0

/-- Puts a new form of an object in place and takes note of the tasks that it spawned. -/
def put (node : Node) (i : Nat) (earlier later : GossipObject) : Node :=
  { node with
    objects := node.objects.set i later
    tasks := node.tasks ++ (earlier.spawned later).map (Address.mk i) }

def add (node : Node) (o : GossipObject) : Node := { node with objects := node.objects ++ [o] }

/-- Gives a turn to a reconcile task of the channel. -/
def poll (node : Node) (a : Address) : Node :=
  match node.channel? a with
  | none => node
  | some c =>
    let (c, hub) := c.poll node.hub
    { node with
      hub := hub
      objects := node.objects.modify a.object (·.onLane a.lane fun _ => c) }

/-- Gives each of the tasks a turn and keeps those that have not ended. -/
def sweep (node : Node) : List Address → Node × List Address
  | [] => (node, [])
  | a :: rest =>
    let next := node.poll a
    let (last, left) := next.sweep rest
    (last, if next.unfinished a < node.unfinished a then left else a :: left)

/-- Runs every task until it ends or waits for the overlay. -/
def runTasks (node : Node) : Node :=
  let (node, left) := node.sweep node.tasks
  { node with tasks := left, hub := node.hub.report }

/-- The channels whose requests are to be dealt with, each with its newest request. -/
def targets (node : Node) (i : Nat) : List (Address × Nat) :=
  match node.objects[i]? with
  | none => []
  | some o => o.lanes.map fun (lane, c) => (⟨i, lane⟩, c.generation)

/-- Whether every channel has dealt with the request noted for it. -/
def hasSettled (node : Node) (targets : List (Address × Nat)) : Bool :=
  targets.all fun (a, generation) => (node.channel? a).all (generation ≤ ·.settled)

end Node

end BeaconGossip
