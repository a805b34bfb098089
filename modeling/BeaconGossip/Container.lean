import BeaconGossip.Fork
import BeaconGossip.Wire

namespace BeaconGossip

abbrev Slot := UInt64
abbrev ValidatorIndex := UInt64

namespace Codec

def root : Codec Root := octets 32

end Codec

structure BlockHeader where
  slot : Slot
  proposer : ValidatorIndex
  parentRoot : Root
  stateRoot : Root
  bodyRoot : Root
  deriving DecidableEq

structure SignedBlockHeader where
  header : BlockHeader
  signature : Bytes
  deriving DecidableEq

structure Block where
  slot : Slot
  proposer : ValidatorIndex
  parentRoot : Root
  stateRoot : Root
  body : Bytes
  deriving DecidableEq

structure SignedBlock where
  block : Block
  signature : Bytes
  deriving DecidableEq

structure Checkpoint where
  epoch : Epoch
  root : Root
  deriving DecidableEq

structure AttestationData where
  slot : Slot
  /-- Index of the committee within the slot. -/
  committee : UInt64
  blockRoot : Root
  source : Checkpoint
  target : Checkpoint
  deriving DecidableEq

structure Attestation where
  aggregationBits : List Bool
  data : AttestationData
  signature : Bytes
  deriving DecidableEq

structure IndexedAttestation where
  attesters : List ValidatorIndex
  data : AttestationData
  signature : Bytes
  deriving DecidableEq

structure AggregateAndProof where
  aggregator : ValidatorIndex
  aggregate : Attestation
  selectionProof : Bytes
  deriving DecidableEq

structure SignedAggregate where
  content : AggregateAndProof
  signature : Bytes
  deriving DecidableEq

structure ProposerSlashing where
  first : SignedBlockHeader
  second : SignedBlockHeader
  deriving DecidableEq

structure AttesterSlashing where
  first : IndexedAttestation
  second : IndexedAttestation
  deriving DecidableEq

structure VoluntaryExit where
  epoch : Epoch
  validator : ValidatorIndex
  deriving DecidableEq

structure SignedVoluntaryExit where
  exit : VoluntaryExit
  signature : Bytes
  deriving DecidableEq

namespace Codec

def blockHeader : Codec BlockHeader :=
  (word.pair (word.pair (root.pair (root.pair root)))).map
    (fun (slot, proposer, parent, state, body) => ⟨slot, proposer, parent, state, body⟩)
    (fun h => (h.slot, h.proposer, h.parentRoot, h.stateRoot, h.bodyRoot))

def signedBlockHeader : Codec SignedBlockHeader :=
  (blockHeader.pair bytes).map (fun (header, signature) => ⟨header, signature⟩)
    (fun h => (h.header, h.signature))

def block : Codec Block :=
  (word.pair (word.pair (root.pair (root.pair bytes)))).map
    (fun (slot, proposer, parent, state, body) => ⟨slot, proposer, parent, state, body⟩)
    (fun b => (b.slot, b.proposer, b.parentRoot, b.stateRoot, b.body))

def signedBlock : Codec SignedBlock :=
  (block.pair bytes).map (fun (block, signature) => ⟨block, signature⟩)
    (fun b => (b.block, b.signature))

def checkpoint : Codec Checkpoint :=
  (word.pair root).map (fun (epoch, root) => ⟨epoch, root⟩) (fun c => (c.epoch, c.root))

def attestationData : Codec AttestationData :=
  (word.pair (word.pair (root.pair (checkpoint.pair checkpoint)))).map
    (fun (slot, committee, root, source, target) => ⟨slot, committee, root, source, target⟩)
    (fun d => (d.slot, d.committee, d.blockRoot, d.source, d.target))

def attestation : Codec Attestation :=
  (bool.list.pair (attestationData.pair bytes)).map
    (fun (bits, data, signature) => ⟨bits, data, signature⟩)
    (fun a => (a.aggregationBits, a.data, a.signature))

def indexedAttestation : Codec IndexedAttestation :=
  (word.list.pair (attestationData.pair bytes)).map
    (fun (attesters, data, signature) => ⟨attesters, data, signature⟩)
    (fun a => (a.attesters, a.data, a.signature))

def aggregateAndProof : Codec AggregateAndProof :=
  (word.pair (attestation.pair bytes)).map
    (fun (aggregator, aggregate, proof) => ⟨aggregator, aggregate, proof⟩)
    (fun a => (a.aggregator, a.aggregate, a.selectionProof))

def signedAggregate : Codec SignedAggregate :=
  (aggregateAndProof.pair bytes).map (fun (content, signature) => ⟨content, signature⟩)
    (fun a => (a.content, a.signature))

def proposerSlashing : Codec ProposerSlashing :=
  (signedBlockHeader.pair signedBlockHeader).map (fun (first, second) => ⟨first, second⟩)
    (fun s => (s.first, s.second))

def attesterSlashing : Codec AttesterSlashing :=
  (indexedAttestation.pair indexedAttestation).map (fun (first, second) => ⟨first, second⟩)
    (fun s => (s.first, s.second))

def voluntaryExit : Codec VoluntaryExit :=
  (word.pair word).map (fun (epoch, validator) => ⟨epoch, validator⟩)
    (fun e => (e.epoch, e.validator))

def signedVoluntaryExit : Codec SignedVoluntaryExit :=
  (voluntaryExit.pair bytes).map (fun (exit, signature) => ⟨exit, signature⟩)
    (fun e => (e.exit, e.signature))

end Codec

end BeaconGossip
