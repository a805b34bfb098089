import BeaconGossip.Hub
import BeaconGossip.Status

namespace BeaconGossip.Scenario

inductive Outcome where
  | ok
  | failed (e : GossipError)
  | done
  | settled
  | pending
  | dropped
  | kept
  | nothing
  | number (n : Nat)
  | flag (b : Bool)
  | verdict (v : Verdict)
  | text (t : String)
  | texts (ts : List String)
  | info (i : ObjectInfo)

/-- What has changed since the last answer. -/
structure Changes where
  /-- Whether the topic is joined, and the topic; calls of one topic in their order. -/
  subscriptions : List (Bool × String)
  publishes : List (String × Bytes)
  arrivals : List Arrival
  rejected : List RejectedPayload
  counters : Registry
  statuses : List (String × Status)

structure Answer where
  outcome : Outcome
  changes : Changes

end BeaconGossip.Scenario
