import BeaconGossip.Node.Operation
import BeaconGossip.Proofs.Overlay

namespace BeaconGossip

namespace Node

/-- What an object can be asked for. -/
inductive Act where
  | start (root : Root) (optimistic : Bool)
  | stop
  | stopOptimistic
  | subscribe
  | unsubscribe
  | requestSubnet (index : UInt64)
  | releaseSubnet (index : UInt64)
  | publish (message : Message)
  | publishPayload (payload : Bytes)
  | publishAttestation (attestation : Nat)
  | gossip (attestation : Nat)

inductive Event where
  | addController (fork : Fork) (settings : Settings)
  | addManager (settings : Settings) (digest : ForkDigest) (cls : MessageClass)
  | addSubnets (settings : Settings) (digest : ForkDigest)
  | addChannel (endpoint : Endpoint) (limit : Nat)
  | act (object : Nat) (act : Act)
  | addAttestation (a : GossipAttestation)
  | mark (attestation : Nat)
  | setGenesisRoot (root : Root)
  | setVerdict (cls : MessageClass) (v : Verdict)
  | setRule (rule : Overlay.Rule)
  | release (r : Overlay.Release)
  /-- The call at the given place is answered, if it is held. -/
  | answer (n : Nat) (r : Overlay.Reply)
  | deliver (endpoint : Endpoint) (payload : Bytes)
  /-- The channel's reconcile task has a turn. -/
  | turn (address : Address)
  /-- The publish tasks run. -/
  | report
  | runTasks

inductive Answer where
  | done
  | result (r : Except GossipError Unit)
  | publishing (p : Option Publishing)
  | flag (b : Bool)
  | verdict (v : Verdict)
  | number (n : Nat)

def perform (node : Node) (i : Nat) : Act → Answer × Node
  | .start root optimistic =>
    let (r, node) := node.start i root optimistic
    (.result r, node)
  | .stop => (.done, node.stop i)
  | .stopOptimistic => (.done, node.stopOptimistic i)
  | .subscribe => (.done, node.subscribe i)
  | .unsubscribe => (.done, node.unsubscribe i)
  | .requestSubnet index =>
    let (r, node) := node.requestSubnet i index
    (.result r, node)
  | .releaseSubnet index =>
    let (r, node) := node.releaseSubnet i index
    (.result r, node)
  | .publish message =>
    let (p, node) := node.publish i message
    (.publishing p, node)
  | .publishPayload payload =>
    let (p, node) := node.publishPayload i payload
    (.publishing p, node)
  | .publishAttestation a => (.done, node.publishAttestation i a)
  | .gossip a =>
    let (p, node) := node.gossip i a
    (.publishing p, node)

def withOverlay (node : Node) (o : Overlay) : Node :=
  { node with hub := { node.hub with overlay := o } }

/-- A new subnet set shows in its gauge. -/
def addSubnets (node : Node) (s : SubnetSet) : Node :=
  { node with hub := { node.hub with registry := node.hub.registry.touch s.gauge } }.add (.subnets s)

def step (node : Node) : Event → Answer × Node
  | .addController fork settings => (.done, node.add (.controller (.ofFork fork settings)))
  | .addManager settings digest cls => (.done, node.add (.manager (.ofClass settings digest cls)))
  | .addSubnets settings digest => (.done, node.addSubnets (.fresh settings digest))
  | .addChannel endpoint limit => (.done, node.add (.channel (.fresh endpoint limit)))
  | .act i act => node.perform i act
  | .addAttestation a => (.done, { node with attestations := node.attestations ++ [a] })
  | .mark a =>
    let (first, node) := node.mark a
    (.flag first, node)
  | .setGenesisRoot root => (.done, node.setGenesisRoot root)
  | .setVerdict cls v => (.done, node.setVerdict cls v)
  | .setRule rule => (.done, node.setRule rule)
  | .release r =>
    let (n, node) := node.release r
    (.number n, node)
  | .answer n r => (.done, node.withOverlay (node.hub.overlay.answer n r))
  | .deliver endpoint payload =>
    let (v, node) := node.deliver endpoint payload
    (.verdict v, node)
  | .turn address => (.done, node.poll address)
  | .report => (.done, { node with hub := node.hub.report })
  | .runTasks => (.done, node.runTasks)

def after (node : Node) (e : Event) : Node := (node.step e).2

def run (node : Node) (es : List Event) : Node := es.foldl after node

/-- Whatever a node can come to. -/
def Reachable (node : Node) : Prop :=
  ∃ settings schedule es, node = (fresh settings schedule).run es

/-- A controller is made, and then things happen. -/
def runController (base : Node) (fork : Fork) (settings : Settings) (es : List Event) : Node :=
  (base.after (.addController fork settings)).run es

/-- The events with the answers that they are given. -/
def history (node : Node) : List Event → List (Event × Answer)
  | [] => []
  | e :: es => (e, (node.step e).1) :: (node.after e).history es

theorem run_append (node : Node) (es : List Event) (e : Event) :
    node.run (es ++ [e]) = (node.run es).after e := by
  rw [run, List.foldl_append]
  rfl

theorem history_append (node : Node) (es : List Event) (e : Event) :
    node.history (es ++ [e]) = node.history es ++ [(e, ((node.run es).step e).1)] := by
  induction es generalizing node with
  | nil => rfl
  | cons e' es ih =>
    simp only [List.cons_append, history, ih]
    rfl

end Node

def Root.zero : Root := .fill 32 0

def Fork.genesis : Fork := ⟨.fill 4 0, .fill 4 0, 0⟩

/-- The digest is known, so that nothing has to be hashed. -/
def Schedule.genesis (root : Option Root) : Schedule :=
  ⟨[.genesis], root, [((Fork.genesis.currentVersion, .zero), ⟨.fill 4 0⟩)]⟩

/-- The vote of a committee whose subnet is the sixth. -/
def AttestationData.genesis : AttestationData := ⟨1, 2, .zero, ⟨0, .zero⟩, ⟨0, .zero⟩⟩

def Node.genesis : Node := .fresh .standard (.genesis (some .zero))

theorem Node.reachable_genesis : Node.genesis.Reachable := ⟨_, _, [], rfl⟩

/-- The controller at a place where there is one. -/
def Node.controllerAt (node : Node) (i : Nat) : Controller :=
  match node.objects[i]? with
  | some (.controller c) => c
  | _ => .ofFork .genesis .standard

end BeaconGossip
