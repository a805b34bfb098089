import BeaconGossip.Inbound
import BeaconGossip.Proofs.Wire

namespace BeaconGossip

def SignedBlockHeader.Fits (h : SignedBlockHeader) : Prop := h.signature.length < UInt64.size

def Block.Fits (b : Block) : Prop := b.body.length < UInt64.size

def SignedBlock.Fits (b : SignedBlock) : Prop := b.block.Fits ∧ b.signature.length < UInt64.size

def Attestation.Fits (a : Attestation) : Prop :=
  a.aggregationBits.length < UInt64.size ∧ a.signature.length < UInt64.size

def IndexedAttestation.Fits (a : IndexedAttestation) : Prop :=
  a.attesters.length < UInt64.size ∧ a.signature.length < UInt64.size

def AggregateAndProof.Fits (a : AggregateAndProof) : Prop :=
  a.aggregate.Fits ∧ a.selectionProof.length < UInt64.size

def SignedAggregate.Fits (a : SignedAggregate) : Prop :=
  a.content.Fits ∧ a.signature.length < UInt64.size

def ProposerSlashing.Fits (s : ProposerSlashing) : Prop := s.first.Fits ∧ s.second.Fits

def AttesterSlashing.Fits (s : AttesterSlashing) : Prop := s.first.Fits ∧ s.second.Fits

def SignedVoluntaryExit.Fits (e : SignedVoluntaryExit) : Prop := e.signature.length < UInt64.size

namespace Codec

theorem exact_root : root.Exact fun _ => True := exact_octets 32

theorem exact_blockHeader : blockHeader.Exact fun _ => True := by
  refine (exact_word.pair (exact_word.pair (exact_root.pair (exact_root.pair exact_root)))).map
    (fun _ => rfl) (fun _ => rfl) fun h => ?_
  simp only [and_self]

theorem exact_signedBlockHeader : signedBlockHeader.Exact SignedBlockHeader.Fits := by
  refine (exact_blockHeader.pair exact_bytes).map (fun _ => rfl) (fun _ => rfl) fun h => ?_
  simp only [SignedBlockHeader.Fits, true_and]

theorem exact_block : block.Exact Block.Fits := by
  refine (exact_word.pair (exact_word.pair (exact_root.pair (exact_root.pair exact_bytes)))).map
    (fun _ => rfl) (fun _ => rfl) fun b => ?_
  simp only [Block.Fits, true_and]

theorem exact_signedBlock : signedBlock.Exact SignedBlock.Fits :=
  (exact_block.pair exact_bytes).map (fun _ => rfl) (fun _ => rfl) fun _ => Iff.rfl

theorem exact_checkpoint : checkpoint.Exact fun _ => True := by
  refine (exact_word.pair exact_root).map (fun _ => rfl) (fun _ => rfl) fun c => ?_
  simp only [and_self]

theorem exact_attestationData : attestationData.Exact fun _ => True := by
  refine (exact_word.pair (exact_word.pair (exact_root.pair
    (exact_checkpoint.pair exact_checkpoint)))).map (fun _ => rfl) (fun _ => rfl) fun d => ?_
  simp only [and_self]

theorem exact_attestation : attestation.Exact Attestation.Fits := by
  refine ((exact_bool.list consumes_bool).pair (exact_attestationData.pair exact_bytes)).map
    (fun _ => rfl) (fun _ => rfl) fun a => ?_
  simp only [Attestation.Fits, true_and]

theorem exact_indexedAttestation : indexedAttestation.Exact IndexedAttestation.Fits := by
  refine ((exact_word.list consumes_word).pair (exact_attestationData.pair exact_bytes)).map
    (fun _ => rfl) (fun _ => rfl) fun a => ?_
  simp only [IndexedAttestation.Fits, true_and]

theorem exact_aggregateAndProof : aggregateAndProof.Exact AggregateAndProof.Fits := by
  refine (exact_word.pair (exact_attestation.pair exact_bytes)).map (fun _ => rfl) (fun _ => rfl)
    fun a => ?_
  simp only [AggregateAndProof.Fits, true_and]

theorem exact_signedAggregate : signedAggregate.Exact SignedAggregate.Fits :=
  (exact_aggregateAndProof.pair exact_bytes).map (fun _ => rfl) (fun _ => rfl) fun _ => Iff.rfl

theorem exact_proposerSlashing : proposerSlashing.Exact ProposerSlashing.Fits :=
  (exact_signedBlockHeader.pair exact_signedBlockHeader).map (fun _ => rfl) (fun _ => rfl)
    fun _ => Iff.rfl

theorem exact_attesterSlashing : attesterSlashing.Exact AttesterSlashing.Fits :=
  (exact_indexedAttestation.pair exact_indexedAttestation).map (fun _ => rfl) (fun _ => rfl)
    fun _ => Iff.rfl

theorem exact_voluntaryExit : voluntaryExit.Exact fun _ => True := by
  refine (exact_word.pair exact_word).map (fun _ => rfl) (fun _ => rfl) fun e => ?_
  simp only [and_self]

theorem exact_signedVoluntaryExit : signedVoluntaryExit.Exact SignedVoluntaryExit.Fits := by
  refine (exact_voluntaryExit.pair exact_bytes).map (fun _ => rfl) (fun _ => rfl) fun e => ?_
  simp only [SignedVoluntaryExit.Fits, true_and]

end Codec

namespace Message

def Fits : Message → Prop
  | attestation a => a.Fits
  | block b => b.Fits
  | aggregate a => a.Fits
  | voluntaryExit e => e.Fits
  | proposerSlashing s => s.Fits
  | attesterSlashing s => s.Fits

/-- What the messages of one class have from the codec of their content. -/
theorem read_of_exact {α : Type} {codec : Codec α} {fits : α → Prop} (exact : codec.Exact fits)
    {c : MessageClass} {wrap : α → Message} (cls_iff : ∀ m : Message, m.cls = c ↔ ∃ x, m = wrap x)
    (fits_iff : ∀ x, (wrap x).Fits ↔ fits x) (encode_eq : ∀ x, (wrap x).encode = codec.write x)
    {bs rest : Bytes} {m : Message} :
    ((codec.read bs).map fun (x, rest) => (wrap x, rest)) = .ok (m, rest) ↔
      m.cls = c ∧ m.Fits ∧ bs = m.encode ++ rest := by
  rw [cls_iff]
  constructor
  · intro h
    cases hr : codec.read bs with
    | error e =>
      rw [hr] at h
      cases h
    | ok p =>
      obtain ⟨x, rest'⟩ := p
      simp only [hr, Except.map, Except.ok.injEq, Prod.mk.injEq] at h
      obtain ⟨rfl, rfl⟩ := h
      obtain ⟨hf, hb⟩ := (exact.read_eq_ok_iff _ _ _).1 hr
      rw [fits_iff, encode_eq]
      exact ⟨⟨x, rfl⟩, hf, hb⟩
  · rintro ⟨⟨x, rfl⟩, hf, hb⟩
    rw [fits_iff] at hf
    rw [encode_eq] at hb
    rw [(exact.read_eq_ok_iff _ _ _).2 ⟨hf, hb⟩]
    rfl

theorem read_eq_ok_iff (c : MessageClass) (bs : Bytes) (m : Message) (rest : Bytes) :
    read c bs = .ok (m, rest) ↔ m.cls = c ∧ m.Fits ∧ bs = m.encode ++ rest := by
  cases c with
  | attestation =>
    refine read_of_exact Codec.exact_attestation ?_ (fun _ => Iff.rfl) fun _ => rfl
    intro m
    cases m <;> simp [cls]
  | block =>
    refine read_of_exact Codec.exact_signedBlock ?_ (fun _ => Iff.rfl) fun _ => rfl
    intro m
    cases m <;> simp [cls]
  | aggregate =>
    refine read_of_exact Codec.exact_signedAggregate ?_ (fun _ => Iff.rfl) fun _ => rfl
    intro m
    cases m <;> simp [cls]
  | voluntaryExit =>
    refine read_of_exact Codec.exact_signedVoluntaryExit ?_ (fun _ => Iff.rfl) fun _ => rfl
    intro m
    cases m <;> simp [cls]
  | proposerSlashing =>
    refine read_of_exact Codec.exact_proposerSlashing ?_ (fun _ => Iff.rfl) fun _ => rfl
    intro m
    cases m <;> simp [cls]
  | attesterSlashing =>
    refine read_of_exact Codec.exact_attesterSlashing ?_ (fun _ => Iff.rfl) fun _ => rfl
    intro m
    cases m <;> simp [cls]

/-- What is short enough to be published fits. -/
theorem fits_of_short {m : Message} (h : m.encode.length < UInt64.size) : m.Fits := by
  cases m with
  | attestation a => exact Codec.exact_attestation.fits_of_short a h
  | block b => exact Codec.exact_signedBlock.fits_of_short b h
  | aggregate a => exact Codec.exact_signedAggregate.fits_of_short a h
  | voluntaryExit e => exact Codec.exact_signedVoluntaryExit.fits_of_short e h
  | proposerSlashing s => exact Codec.exact_proposerSlashing.fits_of_short s h
  | attesterSlashing s => exact Codec.exact_attesterSlashing.fits_of_short s h

/-- Once it has read the given bytes, the reader of the class reads the length of a list next. -/
def Counts : MessageClass → Bytes → Prop
  | .attestation => Codec.attestation.Counts
  | .block => Codec.signedBlock.Counts
  | .aggregate => Codec.signedAggregate.Counts
  | .voluntaryExit => Codec.signedVoluntaryExit.Counts
  | .proposerSlashing => Codec.proposerSlashing.Counts
  | .attesterSlashing => Codec.attesterSlashing.Counts

theorem read_refuses {c : MessageClass} {before : Bytes} (h : Counts c before) {n : UInt64}
    {rest : Bytes} (short : rest.length < n.toNat) :
    ∃ e, read c (before ++ (Codec.word.write n ++ rest)) = .error e := by
  cases c <;> obtain ⟨e, he⟩ := Codec.Counts.refuses h short <;>
    exact ⟨e, by simp only [read, he, Except.map]⟩

theorem decode_iff (c : MessageClass) (topic : String) (payload : Bytes) (m : Message) :
    decode c topic payload = .ok m ↔ m.cls = c ∧ m.Fits ∧ m.encode <+: payload := by
  have hread : decode c topic payload = .ok m ↔ ∃ rest, read c payload = .ok (m, rest) := by
    rw [decode]
    split
    · rename_i m' rest hr
      simp [hr]
    · rename_i e hr
      simp [hr]
  rw [hread]
  constructor
  · rintro ⟨rest, hr⟩
    obtain ⟨hc, hf, rfl⟩ := (read_eq_ok_iff ..).1 hr
    exact ⟨hc, hf, List.prefix_append ..⟩
  · rintro ⟨hc, hf, rest, rfl⟩
    exact ⟨rest, (read_eq_ok_iff ..).2 ⟨hc, hf, rfl⟩⟩

/-- What it means that the payloads of a class are read exactly. -/
structure Exact (c : MessageClass) : Prop where
  decoded : ∀ topic payload m,
    decode c topic payload = .ok m ↔ m.cls = c ∧ m.Fits ∧ m.encode <+: payload
  /-- Decoding undoes encoding, whatever follows. -/
  undone : ∀ topic (m : Message) rest, m.cls = c → m.Fits → decode c topic (m.encode ++ rest) = .ok m
  /-- Payloads of one message differ in what follows only. -/
  trailing : ∀ topic topic' payload payload' m, decode c topic payload = .ok m →
    decode c topic' payload' = .ok m →
    ∃ rest rest', payload = m.encode ++ rest ∧ payload' = m.encode ++ rest'
  /-- What is cut off early does not decode, not even to another message. -/
  cut : ∀ topic (m : Message) payload, m.cls = c → m.Fits → payload <+: m.encode → payload ≠ m.encode →
    ∃ e, decode c topic payload = .error e
  /-- Nor does a list that claims more elements than there are bytes left. -/
  counted : ∀ topic before n rest, Counts c before → rest.length < n.toNat →
    ∃ e, decode c topic (before ++ (Codec.word.write n ++ rest)) = .error e

theorem not_decoded_of_cut {c : MessageClass} {topic : String} {m : Message} {payload : Bytes}
    (hc : m.cls = c) (hf : m.Fits) (prefixed : payload <+: m.encode) (cut : payload ≠ m.encode) :
    ∃ e, decode c topic payload = .error e := by
  cases hd : decode c topic payload with
  | error e => exact ⟨e, rfl⟩
  | ok m' =>
    -- The whole encoding would decode to the same, so that nothing can have been cut off.
    obtain ⟨hc', hf', hp⟩ := (decode_iff ..).1 hd
    have hm := (decode_iff c topic m.encode m).2 ⟨hc, hf, List.prefix_rfl⟩
    have hm' := (decode_iff c topic m.encode m').2 ⟨hc', hf', hp.trans prefixed⟩
    rw [hm, Except.ok.injEq] at hm'
    subst hm'
    exact (cut (prefixed.eq_of_length_le hp.length_le)).elim

/-- Of every class, a payload decodes to a message just if it begins with its encoding. -/
theorem decodes_exactly (c : MessageClass) : Exact c := by
  refine ⟨decode_iff c, ?_, ?_, ?_, ?_⟩
  · intro topic m rest hc hf
    exact (decode_iff ..).2 ⟨hc, hf, List.prefix_append ..⟩
  · intro topic topic' payload payload' m hd hd'
    obtain ⟨_, _, rest, hr⟩ := (decode_iff ..).1 hd
    obtain ⟨_, _, rest', hr'⟩ := (decode_iff ..).1 hd'
    exact ⟨rest, rest', hr.symm, hr'.symm⟩
  · intro topic m payload hc hf prefixed cut
    exact not_decoded_of_cut hc hf prefixed cut
  · intro topic before n rest hcounts short
    obtain ⟨e, he⟩ := read_refuses hcounts short
    refine ⟨.decode topic e.message, ?_⟩
    rw [decode, he]

end Message

namespace Message

/-- What the processor is to get of a message, field by field. An attestation bears the subnet that it
came in on, an aggregate is given whole beside its inner attestation, and neither is to be gossiped
again. -/
def received (m : Message) (subnet : Option SubnetId) : Operation :=
  match m with
  | .attestation a => .attestation
    { attestation := a
      aggregate := none
      receivedSubnet := subnet
      committeesPerSlot := 0
      gossiped := true }
  | .aggregate s => .attestation
    { attestation := s.content.aggregate
      aggregate := some s
      receivedSubnet := none
      committeesPerSlot := 0
      gossiped := true }
  | .block b => .message (.block b)
  | .voluntaryExit e => .message (.voluntaryExit e)
  | .proposerSlashing s => .message (.proposerSlashing s)
  | .attesterSlashing s => .message (.attesterSlashing s)

theorem operation_eq (m : Message) (subnet : Option SubnetId) :
    m.operation subnet = m.received subnet := by
  cases m <;> rfl

/-- Why a payload is dumped, word by word, if it does not decode. -/
def refusal (topic : String) : WireError → String
  | .unexpectedEnd =>
    "failed to decode message on " ++ topic ++ ": " ++ "io error: unexpected end of file"
  | .badBool found =>
    "failed to decode message on " ++ topic ++ ": " ++
      ("invalid u8 while decoding bool, expected 0 or 1, found " ++ toString found.toNat)

theorem message_of_read_error {c : MessageClass} {payload : Bytes} {e : WireError}
    (h : read c payload = .error e) (topic : String) :
    ∃ error, decode c topic payload = .error error ∧ error.message = refusal topic e := by
  refine ⟨.decode topic e.message, by rw [decode, h], ?_⟩
  cases e <;> rfl

end Message

end BeaconGossip
