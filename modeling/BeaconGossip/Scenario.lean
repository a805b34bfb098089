import BeaconGossip.Node.Operation
import BeaconGossip.Registry.Exposition
import BeaconGossip.Scenario.Answer
import BeaconGossip.Scenario.Step

namespace BeaconGossip

namespace Scenario

/-- Something to look at later. -/
inductive Future where
  | publishing (p : Publishing)
  | settling (targets : List (Node.Address × Nat))
  | delivery (endpoint : Endpoint) (payload : Bytes)

end Scenario

/-- A run under way, with what the last answer knew. -/
structure Scenario where
  node : Node
  /-- Whether tasks run after every step. -/
  auto : Bool
  objects : List (String × Nat)
  attestations : List (String × Nat)
  futures : List (String × Scenario.Future)
  lastHub : Hub
  lastStatuses : List (String × Status)

namespace Scenario

def begin (settings : Settings) (schedule : Schedule) (auto : Bool) : Scenario where
  node := .fresh settings schedule
  auto := auto
  objects := []
  attestations := []
  futures := []
  lastHub := .idle
  lastStatuses := []

/-- Number of the object; a name that is not known stands for no object. -/
def object (s : Scenario) (id : String) : Nat := (s.objects.lookup id).getD s.node.objects.length

def attestation (s : Scenario) (id : String) : Nat :=
  (s.attestations.lookup id).getD s.node.attestations.length

def addObject (s : Scenario) (id : String) (o : GossipObject) : Scenario :=
  { s with
    node := s.node.add o
    objects := (id, s.node.objects.length) :: s.objects.filter (·.1 ≠ id) }

def keep (s : Scenario) (name : String) (f : Future) : Scenario :=
  { s with futures := (name, f) :: s.futures }

def ofResult : Except GossipError Unit → Outcome
  | .ok () => .ok
  | .error e => .failed e

/-- Treats the future of a publish as the step says. -/
def handle (s : Scenario) (use : FutureUse) : Option Publishing → Outcome × Scenario
  | none => (.done, s)
  | some p =>
    match use with
    | .wait =>
      let s := { s with node := s.node.runTasks }
      (((s.node.hub.result? p).map ofResult).getD .pending, s)
    | .drop => (.dropped, s)
    | .keep name => (.kept, s.keep name (.publishing p))

def settledOrPending (settled : Bool) : Outcome := if settled then .settled else .pending

/-- Looks at a kept future. A delivery runs now. -/
def look (s : Scenario) : Future → Option Outcome × Node
  | .publishing p => ((s.node.hub.result? p).map ofResult, s.node)
  | .settling targets =>
    (if s.node.hasSettled targets then some .settled else none, s.node)
  | .delivery endpoint payload =>
    let (v, node) := s.node.deliver endpoint payload
    (some (.verdict v), node)

def withNode (s : Scenario) (node : Node) : Scenario := { s with node := node }

/-- A controller says whether the index was in range. -/
def changeSubnet (s : Scenario) (id : String) (change : Node → Except GossipError Unit × Node) :
    Outcome × Scenario :=
  let (result, node) := change s.node
  match s.node.objects[s.object id]? with
  | some (.controller _) => (ofResult result, s.withNode node)
  | _ => (.done, s.withNode node)

def perform (s : Scenario) : Step → Outcome × Scenario
  | .addController id fork =>
    (.ok, s.addObject id (.controller (.ofFork fork s.node.settings)))
  | .addManager id cls digest =>
    (.ok, s.addObject id (.manager (.ofClass s.node.settings digest cls)))
  | .addSubnets id digest =>
    let set := SubnetSet.fresh s.node.settings digest
    let hub := s.node.hub
    (.ok, (s.withNode
      { s.node with hub := { hub with registry := hub.registry.touch set.gauge } }).addObject id
        (.subnets set))
  | .addChannel id endpoint =>
    (.ok, s.addObject id (.channel (.fresh endpoint s.node.settings.limit)))
  | .addAttestation id a =>
    (.done,
      { s with
        node := { s.node with attestations := s.node.attestations ++ [a] }
        attestations :=
          (id, s.node.attestations.length) :: s.attestations.filter (·.1 ≠ id) })
  | .setRule rule => (.done, s.withNode (s.node.setRule rule))
  | .release r =>
    let (n, node) := s.node.release r
    (.number n, s.withNode node)
  | .live => (.texts s.node.hub.overlay.liveTopics, s)
  | .setVerdict cls v => (.done, s.withNode (s.node.setVerdict cls v))
  | .setRoot root => (.done, s.withNode (s.node.setGenesisRoot root))
  | .run => (.done, s.withNode s.node.runTasks)
  | .settle id =>
    let s := s.withNode s.node.runTasks
    (settledOrPending (s.node.hasSettled (s.node.targets (s.object id))), s)
  | .startSettling id name =>
    let targets := s.node.targets (s.object id)
    if s.node.hasSettled targets then (.settled, s) else (.pending, s.keep name (.settling targets))
  | .check name =>
    match s.futures.lookup name with
    | none => (.nothing, s)
    | some f =>
      match s.look f with
      | (none, node) => (.pending, s.withNode node)
      | (some outcome, node) =>
        (outcome, { s with node := node, futures := s.futures.filter (·.1 ≠ name) })
  | .start id root optimistic =>
    let (result, node) := s.node.start (s.object id) root optimistic
    (ofResult result, s.withNode node)
  | .stop id => (.done, s.withNode (s.node.stop (s.object id)))
  | .stopOptimistic id => (.done, s.withNode (s.node.stopOptimistic (s.object id)))
  | .subscribe id => (.done, s.withNode (s.node.subscribe (s.object id)))
  | .unsubscribe id => (.done, s.withNode (s.node.unsubscribe (s.object id)))
  | .requestSubnet id index => s.changeSubnet id (·.requestSubnet (s.object id) index)
  | .releaseSubnet id index => s.changeSubnet id (·.releaseSubnet (s.object id) index)
  | .publish id message use =>
    let (p, node) := s.node.publish (s.object id) message
    -- Only a block's publisher is told the outcome.
    (s.withNode node).handle use (if message.cls = .block then p else none)
  | .publishAttestation id a =>
    (.done, s.withNode (s.node.publishAttestation (s.object id) (s.attestation a)))
  | .gossip id a use =>
    let (p, node) := s.node.gossip (s.object id) (s.attestation a)
    (s.withNode node).handle use p
  | .publishPayload id payload use =>
    let (p, node) := s.node.publishPayload (s.object id) payload
    (s.withNode node).handle use p
  | .deliver topic payload =>
    match s.node.hub.overlay.endpoint? topic with
    | none => (.nothing, s)
    | some endpoint =>
      let (v, node) := s.node.deliver endpoint payload
      (.verdict v, s.withNode node)
  | .startDelivery topic payload name =>
    match s.node.hub.overlay.endpoint? topic with
    | none => (.nothing, s)
    | some endpoint => (.kept, s.keep name (.delivery endpoint payload))
  | .mark a =>
    let (first, node) := s.node.mark (s.attestation a)
    (.flag first, s.withNode node)
  | .info id =>
    match s.node.objects[s.object id]? with
    | none => (.nothing, s)
    | some o => (.info o.info, s)
  | .describe id =>
    match s.node.objects[s.object id]? with
    | none => (.nothing, s)
    | some o => (.texts o.describe, s)
  | .exposition => (.text s.node.hub.registry.exposition, s)

/-- Joins and leaves among the calls. -/
def subscriptionCalls (calls : List Overlay.Call) : List (Bool × String) :=
  calls.filterMap fun c =>
    match c.action with
    | .join _ => some (true, c.topic)
    | .leave => some (false, c.topic)
    | .publish _ => none

def publishCalls (calls : List Overlay.Call) : List (String × Bytes) :=
  calls.filterMap fun c =>
    match c.action with
    | .publish payload => some (c.topic, payload)
    | _ => none

def statuses (s : Scenario) : List (String × Status) :=
  s.objects.filterMap fun (id, i) => (s.node.objects[i]?).map fun o => (id, o.status)

/-- Subscription calls are sorted by topic; those of one topic keep their order. -/
def changes (s : Scenario) : Changes :=
  let hub := s.node.hub
  let calls := hub.overlay.calls.drop s.lastHub.overlay.calls.length
  { subscriptions := (subscriptionCalls calls).mergeSort fun a b => decide (¬ b.2 < a.2)
    publishes := publishCalls calls
    arrivals := hub.arrivals.drop s.lastHub.arrivals.length
    rejected := hub.rejected.drop s.lastHub.rejected.length
    counters := s.lastHub.registry.changes hub.registry
    statuses := s.statuses.filter fun (id, status) => s.lastStatuses.lookup id ≠ some status }

def step (s : Scenario) (step : Step) : Answer × Scenario :=
  let (outcome, s) := s.perform step
  let s := if s.auto then s.withNode s.node.runTasks else s
  (⟨outcome, s.changes⟩, { s with lastHub := s.node.hub, lastStatuses := s.statuses })

def run (s : Scenario) : List Step → List Answer
  | [] => []
  | st :: rest =>
    let (answer, s) := s.step st
    answer :: s.run rest

end Scenario

end BeaconGossip
