namespace BeaconGossip

inductive GossipError where
  /-- Chain state needed for the fork digest is not known yet. -/
  | chainUnavailable (reason : String)
  | unknownFork (epoch : UInt64)
  | invalidSubnet (id count : UInt64)
  | notStarted
  /-- The topic's manager is stopped, fully or for optimistic sync. -/
  | topicInactive (topic : String)
  | encode (context reason : String)
  | decode (topic reason : String)
  | messageTooLarge (size limit : Nat)
  | transport (topic reason : String)
  /-- The overlay is gone. -/
  | shutdown
  deriving DecidableEq

def GossipError.message : GossipError → String
  | .chainUnavailable reason => "chain state unavailable: " ++ reason
  | .unknownFork epoch => "no fork scheduled at epoch " ++ toString epoch.toNat
  | .invalidSubnet id count =>
    "subnet id " ++ toString id.toNat ++ " out of range (subnet count " ++
      toString count.toNat ++ ")"
  | .notStarted => "gossip has not been started for this fork"
  | .topicInactive topic => "gossip topic " ++ topic ++ " is not subscribed"
  | .encode context reason => "failed to encode " ++ context ++ ": " ++ reason
  | .decode topic reason => "failed to decode message on " ++ topic ++ ": " ++ reason
  | .messageTooLarge size limit =>
    "message of " ++ toString size ++ " bytes exceeds the " ++ toString limit ++
      " byte gossip limit"
  | .transport topic reason => "transport error on " ++ topic ++ ": " ++ reason
  | .shutdown => "network shut down"

end BeaconGossip
