import BeaconGossip.Inbound
import BeaconGossip.Node

namespace BeaconGossip.Node

def start (node : Node) (i : Nat) (root : Root) (optimistic : Bool) :
    Except GossipError Unit × Node :=
  match node.objects[i]? with
  | some (.controller c) =>
    match c.start root optimistic node.schedule node.hub.registry with
    | .error e => (.error e, node)
    | .ok (c', schedule, registry) =>
      (.ok (),
        { node with schedule := schedule, hub := { node.hub with registry := registry } }.put i
          (.controller c) (.controller c'))
  | _ => (.ok (), node)

def stop (node : Node) (i : Nat) : Node :=
  match node.objects[i]? with
  | some (.controller c) => node.put i (.controller c) (.controller c.stop)
  | _ => node

def stopOptimistic (node : Node) (i : Nat) : Node :=
  match node.objects[i]? with
  | some (.controller c) => node.put i (.controller c) (.controller c.stopOptimistic)
  | _ => node

def subscribe (node : Node) (i : Nat) : Node :=
  match node.objects[i]? with
  | some (.manager m) => node.put i (.manager m) (.manager m.subscribe)
  | some (.subnets s) => node.put i (.subnets s) (.subnets s.subscribe)
  | some (.channel c) => node.put i (.channel c) (.channel c.subscribe)
  | _ => node

def unsubscribe (node : Node) (i : Nat) : Node :=
  match node.objects[i]? with
  | some (.manager m) => node.put i (.manager m) (.manager m.unsubscribe)
  | some (.subnets s) => node.put i (.subnets s) (.subnets s.unsubscribe)
  | some (.channel c) => node.put i (.channel c) (.channel c.unsubscribe)
  | _ => node

/-- A subnet set takes any index; a controller checks it. -/
def requestSubnet (node : Node) (i : Nat) (index : UInt64) : Except GossipError Unit × Node :=
  match node.objects[i]? with
  | some (.controller c) =>
    match c.requestSubnet index node.hub.registry with
    | .error e => (.error e, node)
    | .ok (c', registry) =>
      (.ok (), { node with hub := { node.hub with registry := registry } }.put i
        (.controller c) (.controller c'))
  | some (.subnets s) =>
    let (s', registry) := s.request ⟨index⟩ node.hub.registry
    (.ok (),
      { node with hub := { node.hub with registry := registry } }.put i (.subnets s) (.subnets s'))
  | _ => (.ok (), node)

def releaseSubnet (node : Node) (i : Nat) (index : UInt64) : Except GossipError Unit × Node :=
  match node.objects[i]? with
  | some (.controller c) =>
    match c.releaseSubnet index node.hub.registry with
    | .error e => (.error e, node)
    | .ok (c', registry) =>
      (.ok (), { node with hub := { node.hub with registry := registry } }.put i
        (.controller c) (.controller c'))
  | some (.subnets s) =>
    let (s', registry) := s.release ⟨index⟩ node.hub.registry
    (.ok (),
      { node with hub := { node.hub with registry := registry } }.put i (.subnets s) (.subnets s'))
  | _ => (.ok (), node)

/-- Offers a message that is no attestation and no aggregate. -/
def publish (node : Node) (i : Nat) (message : Message) : Option Publishing × Node :=
  match node.objects[i]? with
  | some (.controller c) =>
    let (p, hub) := c.publish message node.hub
    (some p, { node with hub := hub })
  | some (.manager m) =>
    let (p, hub) := m.offer message node.hub
    (some p, { node with hub := hub })
  | _ => (none, node)

/-- Publishes a payload on a channel as it is. -/
def publishPayload (node : Node) (i : Nat) (payload : Bytes) : Option Publishing × Node :=
  match node.objects[i]? with
  | some (.channel c) =>
    let (p, hub) := c.publish payload node.hub
    (some p, { node with hub := hub })
  | _ => (none, node)

/-- Offers an attestation, and keeps its mark. -/
def publishAttestation (node : Node) (i a : Nat) : Node :=
  match node.objects[i]?, node.attestations[a]? with
  | some (.controller c), some att =>
    let (att, c', hub) := c.publishAttestation att node.hub
    { node with hub := hub, attestations := node.attestations.set a att }.put i
      (.controller c) (.controller c')
  | some (.subnets s), some att =>
    let (att, s', hub) := s.offer att node.hub
    { node with hub := hub, attestations := node.attestations.set a att }.put i
      (.subnets s) (.subnets s')
  | some (.manager m), some att =>
    let (att, hub) := m.offerAggregate att node.hub
    { node with hub := hub, attestations := node.attestations.set a att }
  | _, _ => node

/-- Publishes an attestation on its subnet, whatever its mark. -/
def gossip (node : Node) (i a : Nat) : Option Publishing × Node :=
  match node.objects[i]?, node.attestations[a]? with
  | some (.subnets s), some att =>
    let (p, s', hub) := s.gossip att node.hub
    (some p, { node with hub := hub }.put i (.subnets s) (.subnets s'))
  | _, _ => (none, node)

def mark (node : Node) (a : Nat) : Bool × Node :=
  match node.attestations[a]? with
  | none => (false, node)
  | some att =>
    let (first, att) := att.mark
    (first, { node with attestations := node.attestations.set a att })

/-- Delivers a payload to an endpoint. -/
def deliver (node : Node) (e : Endpoint) (payload : Bytes) : Verdict × Node :=
  let (v, hub) := e.deliver payload node.hub
  (v, { node with hub := hub })

def setRule (node : Node) (rule : Overlay.Rule) : Node :=
  { node with hub := { node.hub with overlay := node.hub.overlay.setRule rule } }

def release (node : Node) (r : Overlay.Release) : Nat × Node :=
  let (n, overlay) := node.hub.overlay.release r
  (n, { node with hub := { node.hub with overlay := overlay } })

def setVerdict (node : Node) (c : MessageClass) (v : Verdict) : Node :=
  { node with
    hub := { node.hub with verdict := fun c' => if c' = c then v else node.hub.verdict c' } }

def setGenesisRoot (node : Node) (root : Root) : Node :=
  { node with schedule := node.schedule.setGenesisRoot root }

end BeaconGossip.Node
