import BeaconGossip.Proofs.Message
import BeaconGossip.Proofs.Wire.Faults

namespace BeaconGossip

namespace Codec.Layout

def root : Layout root := octets 31

def blockHeader : Layout blockHeader :=
  map (pair word (pair word (pair root (pair root root)))) _ _

def signedBlockHeader : Layout signedBlockHeader := map (pair blockHeader bytes) _ _

def signedBlock : Layout signedBlock :=
  map (pair (map (pair word (pair word (pair root (pair root bytes)))) _ _) bytes) _ _

def checkpoint : Layout checkpoint := map (pair word root) _ _

def attestationData : Layout attestationData :=
  map (pair word (pair word (pair root (pair checkpoint checkpoint)))) _ _

def attestation : Layout attestation := map (pair (list bool) (pair attestationData bytes)) _ _

def indexedAttestation : Layout indexedAttestation :=
  map (pair (list word) (pair attestationData bytes)) _ _

def signedAggregate : Layout signedAggregate :=
  map (pair (map (pair word (pair attestation bytes)) _ _) bytes) _ _

def proposerSlashing : Layout proposerSlashing := map (pair signedBlockHeader signedBlockHeader) _ _

def attesterSlashing : Layout attesterSlashing :=
  map (pair indexedAttestation indexedAttestation) _ _

def signedVoluntaryExit : Layout signedVoluntaryExit :=
  map (pair (map (pair word word) _ _) bytes) _ _

end Codec.Layout

namespace Message

open Codec

/-- Reads a message of the class, with the blocks that this takes off the payload. -/
def trace (c : MessageClass) : Traced Message :=
  match c with
  | .attestation => Layout.attestation.trace.bind fun a => .pure (attestation a)
  | .block => Layout.signedBlock.trace.bind fun b => .pure (block b)
  | .aggregate => Layout.signedAggregate.trace.bind fun a => .pure (aggregate a)
  | .voluntaryExit => Layout.signedVoluntaryExit.trace.bind fun e => .pure (voluntaryExit e)
  | .proposerSlashing => Layout.proposerSlashing.trace.bind fun s => .pure (proposerSlashing s)
  | .attesterSlashing => Layout.attesterSlashing.trace.bind fun s => .pure (attesterSlashing s)

theorem trace_read (c : MessageClass) (payload : Bytes) :
    (trace c payload).2 = read c payload := by
  cases c <;> exact Layout.bind_pure_read (Layout.trace_read _) _ payload

theorem leftToRight (c : MessageClass) : (trace c).LeftToRight := by
  cases c <;> exact (Layout.leftToRight _).bind fun _ => .pure _

theorem lenient {c : MessageClass} (attestation : c ≠ .attestation) (aggregate : c ≠ .aggregate) :
    (trace c).Lenient := by
  cases c with
  | attestation => exact (attestation rfl).elim
  | aggregate => exact (aggregate rfl).elim
  | _ => exact (Layout.lenient _ rfl).bind fun _ => .pure _

/-- Some payload that begins with the given bytes decodes. -/
def Completable (c : MessageClass) (topic : String) (bs : Bytes) : Prop :=
  ∃ more m, decode c topic (bs ++ more) = .ok m

variable {c : MessageClass} {topic : String} {payload : Bytes}

theorem decode_eq_ok_iff {m : Message} :
    decode c topic payload = .ok m ↔ ∃ rest, (trace c payload).2 = .ok (m, rest) := by
  rw [trace_read, decode]
  cases read c payload with
  | error e => simp
  | ok p => simp [Prod.ext_iff]

theorem decode_eq_error_iff {e : GossipError} :
    decode c topic payload = .error e ↔
      ∃ problem, (trace c payload).2 = .error problem ∧ e = .decode topic problem.message := by
  rw [trace_read, decode]
  cases read c payload with
  | error e => simp [eq_comm]
  | ok p => simp

theorem completable_iff {bs : Bytes} : Completable c topic bs ↔ (trace c).Completable bs :=
  exists_congr fun _ => exists_congr fun _ => decode_eq_ok_iff

/-- A payload that does not decode but can be completed has been cut off. -/
theorem completable_iff_cut {e : GossipError} (h : decode c topic payload = .error e) :
    Completable c topic payload ↔
      ∃ m : Message, m.cls = c ∧ m.Fits ∧ payload <+: m.encode ∧ payload ≠ m.encode := by
  constructor
  · rintro ⟨more, m, hm⟩
    obtain ⟨hc, hf, prefixed⟩ := (decode_iff ..).1 hm
    have short : ¬ m.encode <+: payload := by
      intro whole
      rw [(decode_iff c topic payload m).2 ⟨hc, hf, whole⟩] at h
      cases h
    obtain cut | whole := List.prefix_or_prefix_of_prefix (List.prefix_append payload more) prefixed
    · exact ⟨m, hc, hf, cut, fun he => short (he ▸ List.prefix_rfl)⟩
    · exact (short whole).elim
  · rintro ⟨m, hc, hf, ⟨more, hmore⟩, -⟩
    exact ⟨more, m, (decode_iff ..).2 ⟨hc, hf, hmore ▸ List.prefix_rfl⟩⟩

/-- The error names the first problem that the payload has. -/
structure NamesProblem (c : MessageClass) (topic : String) (payload : Bytes) (e : GossipError) :
    Prop where
  cut_iff : Completable c topic payload ↔
    ∃ m : Message, m.cls = c ∧ m.Fits ∧ payload <+: m.encode ∧ payload ≠ m.encode
  cut : Completable c topic payload → e = .decode topic "io error: unexpected end of file"
  /-- The byte that is named is the first after which no payload decodes, and the last one read. -/
  spoilt : ¬ Completable c topic payload → ∃ i found, payload[i]? = some found ∧
    found ≠ 0 ∧ found ≠ 1 ∧ ¬ Completable c topic (payload.take (i + 1)) ∧
    (∀ j < i, Completable c topic (payload.take (j + 1))) ∧
    (trace c payload).1.flatten = payload.take (i + 1) ∧
    e = .decode topic
      ("invalid u8 while decoding bool, expected 0 or 1, found " ++ toString found.toNat)
  boolFree : c ≠ .attestation → c ≠ .aggregate → Completable c topic payload

theorem namesProblem {e : GossipError} (h : decode c topic payload = .error e) :
    NamesProblem c topic payload e := by
  obtain ⟨problem, hp, rfl⟩ := decode_eq_error_iff.1 h
  have cut := (leftToRight c).completable_iff hp
  refine ⟨completable_iff_cut h, fun hc => ?_, fun hc => ?_, fun attestation aggregate => ?_⟩
  · rw [cut.1 (completable_iff.1 hc)]
    rfl
  · cases problem with
    | unexpectedEnd => exact (hc (completable_iff.2 (cut.2 rfl))).elim
    | badBool v =>
      obtain ⟨i, hopeless, read⟩ := (leftToRight c).hopeless_of_spoilt hp
      refine ⟨i, v, hopeless.found, hopeless.no_bool.1, hopeless.no_bool.2, ?_, ?_, read, rfl⟩
      · exact fun hi => hopeless.ends (completable_iff.1 hi)
      · exact fun j hj => completable_iff.2 (hopeless.first j hj)
  · refine completable_iff.2 (cut.2 ?_)
    cases problem with
    | unexpectedEnd => rfl
    | badBool v => exact (lenient attestation aggregate payload v hp).elim

/-- Whatever lengths a payload claims, no more is read than the payload, and if it is refused, that
is for the first problem that it has. -/
theorem refused_for_first_problem (c : MessageClass) (topic : String) (payload : Bytes) :
    ((trace c payload).2 = read c payload ∧ (trace c payload).1.flatten <+: payload ∧
        (trace c payload).1.length ≤ payload.length) ∧
      ∀ e, decode c topic payload = .error e → NamesProblem c topic payload e :=
  ⟨⟨trace_read c payload, (leftToRight c).taken_starts payload,
    (leftToRight c).length_taken_le payload⟩, fun _ => namesProblem⟩

/-- A list that claims more elements than can be stored, and whose third is no truth value. -/
theorem refused_for_third_bool :
    let payload : Bytes := [255, 255, 255, 255, 255, 255, 255, 255, 1, 0, 7, 9]
    let e : GossipError :=
      .decode "t" "invalid u8 while decoding bool, expected 0 or 1, found 7"
    decode .attestation "t" payload = .error e ∧ NamesProblem .attestation "t" payload e ∧
      (trace .attestation payload).1 =
        [[255, 255, 255, 255, 255, 255, 255, 255], [1], [0], [7]] := by
  intro payload e
  have refused : decode .attestation "t" payload = .error e := by rfl
  exact ⟨refused, (refused_for_first_problem .attestation "t" payload).2 e refused, by rfl⟩

end Message

end BeaconGossip
