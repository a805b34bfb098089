namespace BeaconGossip

inductive MessageClass where
  | attestation
  | block
  | aggregate
  | voluntaryExit
  | proposerSlashing
  | attesterSlashing
  deriving DecidableEq, Repr

namespace MessageClass

/-- Every class, in the order in which a fork's managers are built. -/
def all : List MessageClass :=
  [attestation, block, aggregate, voluntaryExit, proposerSlashing, attesterSlashing]

/-- The name used in topics, metrics and dump directories. -/
def name : MessageClass → String
  | attestation => "beacon_attestation"
  | block => "beacon_block"
  | aggregate => "beacon_aggregate_and_proof"
  | voluntaryExit => "voluntary_exit"
  | proposerSlashing => "proposer_slashing"
  | attesterSlashing => "attester_slashing"

/-- The short name used in diagnostics. -/
def tag : MessageClass → String
  | attestation => "Attestation"
  | block => "Block"
  | aggregate => "Aggregate"
  | voluntaryExit => "VoluntaryExit"
  | proposerSlashing => "ProposerSlashing"
  | attesterSlashing => "AttesterSlashing"

def ofName? (name : String) : Option MessageClass := all.find? fun c => c.name = name

/-- Whether the class keeps gossiping while the head is optimistic. -/
def runsOptimistically : MessageClass → Bool
  | block | aggregate => true
  | _ => false

end MessageClass

end BeaconGossip
