import BeaconGossip.GossipAttestation
import BeaconGossip.Message
import BeaconGossip.Overlay
import BeaconGossip.Registry

namespace BeaconGossip.Scenario

/-- What becomes of the future of a publish. -/
inductive FutureUse where
  | wait
  | drop
  | keep (name : String)
  deriving DecidableEq

inductive Step where
  | addController (id : String) (fork : Fork)
  | addManager (id : String) (cls : MessageClass) (digest : ForkDigest)
  | addSubnets (id : String) (digest : ForkDigest)
  | addChannel (id : String) (endpoint : Endpoint)
  | addAttestation (id : String) (a : GossipAttestation)
  | setRule (rule : Overlay.Rule)
  | release (r : Overlay.Release)
  | live
  | setVerdict (cls : MessageClass) (v : Verdict)
  | setRoot (root : Root)
  | run
  | settle (id : String)
  | startSettling (id name : String)
  | check (name : String)
  | start (id : String) (root : Root) (optimistic : Bool)
  | stop (id : String)
  | stopOptimistic (id : String)
  | subscribe (id : String)
  | unsubscribe (id : String)
  | requestSubnet (id : String) (index : UInt64)
  | releaseSubnet (id : String) (index : UInt64)
  | publish (id : String) (message : Message) (use : FutureUse)
  | publishAttestation (id attestation : String)
  | gossip (id attestation : String) (use : FutureUse)
  | publishPayload (id : String) (payload : Bytes) (use : FutureUse)
  | deliver (topic : String) (payload : Bytes)
  | startDelivery (topic : String) (payload : Bytes) (name : String)
  | mark (attestation : String)
  | info (id : String)
  | describe (id : String)
  | exposition

end BeaconGossip.Scenario
