import BeaconGossip.GossipAttestation
import BeaconGossip.Message
import BeaconGossip.Overlay
import BeaconGossip.Registry

namespace BeaconGossip

/-- A decoded message in the form in which its processor takes it. -/
inductive Operation where
  | message (m : Message)
  | attestation (a : GossipAttestation)
  deriving DecidableEq

structure Arrival where
  cls : MessageClass
  operation : Operation
  deriving DecidableEq

/-- A payload saved for inspection because it was rejected. -/
structure RejectedPayload where
  cls : MessageClass
  topic : String
  payload : Bytes
  reason : String
  deriving DecidableEq

/-- A publish that the overlay has taken up. Its outcome is counted once, by a task of its own. -/
structure Publication where
  ticket : Overlay.Ticket
  cls : MessageClass
  reported : Bool
  deriving DecidableEq

/-- What all topics of a node share, with a record of what reached the processors and what was
dumped. -/
structure Hub where
  overlay : Overlay
  registry : Registry
  publications : List Publication
  verdict : MessageClass → Verdict
  arrivals : List Arrival
  rejected : List RejectedPayload

/-- How an attempt to publish stands when the call returns. -/
inductive Publishing where
  | refused (e : GossipError)
  | sent (t : Overlay.Ticket)
  deriving DecidableEq

namespace Hub

def idle : Hub where
  overlay := .idle
  registry := []
  publications := []
  verdict _ := .accept
  arrivals := []
  rejected := []

def count (h : Hub) (s : Registry.Series) : Hub := { h with registry := h.registry.increment s }

/-- Counters after the reply to a publish; a publish that died is not counted. -/
def countReply (r : Registry) (c : MessageClass) : Overlay.Reply → Registry
  | .ok => r.increment (.published c)
  | .refused _ => r.increment (.publishFailures c)
  | .died => r

/-- Reports one publication if it has been answered and not reported yet. -/
def reportOne (overlay : Overlay) (r : Registry) (p : Publication) : Registry × Publication :=
  match p.reported, overlay.reply? p.ticket with
  | false, some reply => (countReply r p.cls reply, { p with reported := true })
  | _, _ => (r, p)

def reportAll (overlay : Overlay) (r : Registry) : List Publication → Registry × List Publication
  | [] => (r, [])
  | p :: rest =>
    let (r, p) := reportOne overlay r p
    let (r, rest) := reportAll overlay r rest
    (r, p :: rest)

/-- Lets every publish task run. -/
def report (h : Hub) : Hub :=
  let (registry, publications) := reportAll h.overlay h.registry h.publications
  { h with registry := registry, publications := publications }

/-- What the publisher is told, once the outcome has been reported. -/
def result? (h : Hub) : Publishing → Option (Except GossipError Unit)
  | .refused e => some (.error e)
  | .sent t =>
    if h.publications.any fun p => p.ticket = t ∧ p.reported then
      (h.overlay.reply? t).map (·.result)
    else none

end Hub

end BeaconGossip
