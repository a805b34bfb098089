import BeaconGossip.Container
import BeaconGossip.Error
import BeaconGossip.MessageClass

namespace BeaconGossip

inductive Message where
  | attestation (a : Attestation)
  | block (b : SignedBlock)
  | aggregate (a : SignedAggregate)
  | voluntaryExit (e : SignedVoluntaryExit)
  | proposerSlashing (s : ProposerSlashing)
  | attesterSlashing (s : AttesterSlashing)
  deriving DecidableEq

namespace Message

def cls : Message → MessageClass
  | attestation _ => .attestation
  | block _ => .block
  | aggregate _ => .aggregate
  | voluntaryExit _ => .voluntaryExit
  | proposerSlashing _ => .proposerSlashing
  | attesterSlashing _ => .attesterSlashing

def encode : Message → Bytes
  | attestation a => Codec.attestation.write a
  | block b => Codec.signedBlock.write b
  | aggregate a => Codec.signedAggregate.write a
  | voluntaryExit e => Codec.signedVoluntaryExit.write e
  | proposerSlashing s => Codec.proposerSlashing.write s
  | attesterSlashing s => Codec.attesterSlashing.write s

/-- Reads a message of the class off the front of the payload. -/
def read (c : MessageClass) (payload : Bytes) : Except WireError (Message × Bytes) :=
  match c with
  | .attestation => (Codec.attestation.read payload).map fun (a, rest) => (attestation a, rest)
  | .block => (Codec.signedBlock.read payload).map fun (b, rest) => (block b, rest)
  | .aggregate => (Codec.signedAggregate.read payload).map fun (a, rest) => (aggregate a, rest)
  | .voluntaryExit =>
    (Codec.signedVoluntaryExit.read payload).map fun (e, rest) => (voluntaryExit e, rest)
  | .proposerSlashing =>
    (Codec.proposerSlashing.read payload).map fun (s, rest) => (proposerSlashing s, rest)
  | .attesterSlashing =>
    (Codec.attesterSlashing.read payload).map fun (s, rest) => (attesterSlashing s, rest)

/-- Decodes a payload that arrived on the topic. Bytes after the message are allowed. -/
def decode (c : MessageClass) (topic : String) (payload : Bytes) : Except GossipError Message :=
  match read c payload with
  | .ok (m, _) => .ok m
  | .error e => .error (.decode topic e.message)

end Message

end BeaconGossip
