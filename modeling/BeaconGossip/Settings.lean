import BeaconGossip.Topic

namespace BeaconGossip

structure Settings where
  /-- First part of every topic name. -/
  space : String
  encoding : Encoding
  subnetCount : UInt64
  /-- The longest payload, in bytes. -/
  maxMessageSize : UInt64
  dumpDirectory : Option String
  deriving DecidableEq

namespace Settings

def standard : Settings where
  space := "eth2"
  encoding := .sszSnappy
  subnetCount := Subnet.defaultCount
  maxMessageSize := 10485760
  dumpDirectory := none

def limit (s : Settings) : Nat := s.maxMessageSize.toNat

def namer (s : Settings) (digest : ForkDigest) : TopicNamer := ⟨s.space, digest, s.encoding⟩

end Settings

end BeaconGossip
