import BeaconGossip.Address.Multiaddr
import BeaconGossip.Error
import BeaconGossip.Text.Utf8
import BeaconGossip.Varint

namespace BeaconGossip

inductive SpawnError where
  | limitTooSmall
  /-- Another socket holds the listening address. -/
  | addressTaken
  | address (e : MultiaddrError)
  deriving DecidableEq

def SpawnError.message : SpawnError → String
  | .limitTooSmall => "Maximum transmission size is too small"
  | .addressTaken => ""
  | .address e => e.message

structure PeerlessOverlay where
  limit : Nat
  running : Bool

namespace PeerlessOverlay

/-- The least admissible limit on the length of a message. -/
def leastLimit : Nat := 100

def checkBootstrap : List String → Except SpawnError Unit
  | [] => .ok ()
  | a :: rest =>
    match Multiaddr.check a with
    | .error e => .error (.address e)
    | .ok () => checkBootstrap rest

/-- Starts a node. The limit is checked first, then the listening address, then the addresses of
peers in turn. -/
def spawn (limit : Nat) (addressTaken : Bool) (bootstrap : List String) :
    Except SpawnError PeerlessOverlay :=
  if limit < leastLimit then .error .limitTooSmall
  else if addressTaken then .error .addressTaken
  else
    match checkBootstrap bootstrap with
    | .error e => .error e
    | .ok () => .ok ⟨limit, true⟩

/-- Length of a field: its tag, its own length and its content. -/
def fieldLength (n : Nat) : Nat := 1 + Varint.length n + n

/-- Length of the message in which a payload is sent. -/
def messageLength (topic : String) (payload : Bytes) : Nat :=
  fieldLength payload.length + fieldLength (Text.Utf8.encode topic.toList).length

def subscribe (o : PeerlessOverlay) : Except GossipError Unit :=
  if o.running then .ok () else .error .shutdown

def unsubscribe (o : PeerlessOverlay) : Except GossipError Unit :=
  if o.running then .ok () else .error .shutdown

def publish (o : PeerlessOverlay) (topic : String) (payload : Bytes) : Except GossipError Unit :=
  if !o.running then .error .shutdown
  else if o.limit < messageLength topic payload then .error (.transport topic "MessageTooLarge")
  else .error (.transport topic "InsufficientPeers")

def shutdown (o : PeerlessOverlay) : PeerlessOverlay := { o with running := false }

end PeerlessOverlay

end BeaconGossip
