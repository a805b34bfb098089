import BeaconGossip.Fork
import BeaconGossip.MessageClass
import BeaconGossip.Subnet

namespace BeaconGossip

inductive Encoding where
  | sszSnappy
  deriving DecidableEq

namespace Encoding

def name : Encoding → String
  | sszSnappy => "ssz_snappy"

def ofName? (name : String) : Option Encoding :=
  if name = "ssz_snappy" then some sszSnappy else none

end Encoding

/-- What a topic of a fork carries. -/
inductive TopicKind where
  | ofClass (c : MessageClass)
  | subnet (id : SubnetId)
  deriving DecidableEq

def TopicKind.name : TopicKind → String
  | .ofClass c => c.name
  | .subnet id => MessageClass.attestation.name ++ "_" ++ id.toString

/-- Names the topics of one fork digest. -/
structure TopicNamer where
  space : String
  digest : ForkDigest
  encoding : Encoding
  deriving DecidableEq

def TopicNamer.topic (n : TopicNamer) (kind : TopicKind) : String :=
  "/" ++ n.space ++ "/" ++ n.digest.toString ++ "/" ++ kind.name ++ "/" ++ n.encoding.name

end BeaconGossip
