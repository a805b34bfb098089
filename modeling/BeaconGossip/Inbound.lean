import BeaconGossip.Hub

namespace BeaconGossip

/-- Attestations reach their processor as gossiped, with the subnet that they came in on. -/
def Message.operation (m : Message) (subnet : Option SubnetId) : Operation :=
  match m with
  | .attestation a => .attestation (.ofNetwork a subnet)
  | .aggregate a => .attestation (.aggregateOfNetwork a)
  | m => .message m

namespace Endpoint

def rejectedByProcessor : String := "rejected by processor"

def dump (e : Endpoint) (payload : Bytes) (reason : String) : RejectedPayload :=
  ⟨e.cls, e.topic, payload, reason⟩

def deliver (e : Endpoint) (payload : Bytes) (h : Hub) : Verdict × Hub :=
  let (verdict, h) : Verdict × Hub :=
    match Message.decode e.cls e.topic payload with
    | .ok m =>
      let h := { h with arrivals := h.arrivals ++ [Arrival.mk e.cls (m.operation e.subnet)] }
      match h.verdict e.cls with
      | .reject =>
        (.reject, { h with rejected := h.rejected ++ [e.dump payload rejectedByProcessor] })
      | v => (v, h)
    | .error error =>
      (.reject, { h with rejected := h.rejected ++ [e.dump payload error.message] })
  (verdict, h.count (.inbound e.cls verdict))

end Endpoint

end BeaconGossip
