import BeaconGossip.Channel
import BeaconGossip.Settings

namespace BeaconGossip

structure TopicManager where
  channel : Channel
  deriving DecidableEq

namespace TopicManager

def ofClass (settings : Settings) (digest : ForkDigest) (c : MessageClass) : TopicManager :=
  ⟨.fresh ⟨c, (settings.namer digest).topic (.ofClass c), none⟩ settings.limit⟩

def cls (m : TopicManager) : MessageClass := m.channel.cls

def topic (m : TopicManager) : String := m.channel.topic

def subscribe (m : TopicManager) : TopicManager := ⟨m.channel.subscribe⟩

def unsubscribe (m : TopicManager) : TopicManager := ⟨m.channel.unsubscribe⟩

def isActive (m : TopicManager) : Bool := m.channel.wanted

def isSubscribed (m : TopicManager) : Bool := m.channel.confirmed

def gossip (m : TopicManager) (message : Message) (h : Hub) : Publishing × Hub :=
  if m.isActive then m.channel.publish message.encode h
  else (.refused (.topicInactive m.topic), h)

/-- Offers a message of the manager's class. The offer is counted even if nothing is published. -/
def offer (m : TopicManager) (message : Message) (h : Hub) : Publishing × Hub :=
  m.gossip message (h.count (.publishRequests m.cls))

/-- Publishes the signed aggregate, if there is one that has not been gossiped. The mark is left
alone while the topic is inactive. -/
def offerAggregate (m : TopicManager) (a : GossipAttestation) (h : Hub) :
    GossipAttestation × Hub :=
  let h := h.count (.publishRequests m.cls)
  match a.aggregate with
  | none => (a, h)
  | some aggregate =>
    if m.isActive then
      match a.mark with
      | (true, marked) => (marked, (m.gossip (.aggregate aggregate) h).2)
      | (false, marked) => (marked, h)
    else (a, h)

end TopicManager

end BeaconGossip
