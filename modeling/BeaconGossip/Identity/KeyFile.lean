import BeaconGossip.Identity.KeyPair
import BeaconGossip.Identity.TaggedField
import BeaconGossip.Multibase.Numeral

namespace BeaconGossip.Identity

inductive KeyError where
  | malformed
  | mismatched
  /-- A type of key that has a name but no use here. -/
  | unsupported (name : String)
  | unknownType (type : Int)
  deriving DecidableEq

namespace KeyError

def reason : KeyError → String
  | malformed => "failed to decode private key bytes from protobuf"
  | mismatched => "failed to parse Ed25519 keypair"
  | unsupported name => "cargo feature `" ++ name ++ "` is not enabled"
  | unknownType type => "unknown key type " ++ toString type

def message (e : KeyError) : String := "Key decoding error: " ++ e.reason

end KeyError

namespace KeyFile

structure Fields where
  type : Int
  key : Bytes

/-- What has been read so far, and the tags of the groups that are open, the innermost first. -/
structure Progress where
  fields : Fields
  groups : List Nat

def typeTag : Nat := 1

def keyTag : Nat := 2

/-- Fields lie in fewer groups than this. -/
def groupLimit : Nat := 100

/-- A number as a signed one of 32 bits. -/
def signed (n : Nat) : Int := (n : Int).bmod UInt32.size

/-- Reads the content behind a mark. Only a field outside all groups can be one of the two. -/
def readContent (p : Progress) (mark : FieldMark) (bytes : Bytes) : Option (Progress × Bytes) :=
  match mark.form, p.groups with
  | .closing, [] => none
  | .closing, tag :: outer =>
    if tag = mark.tag then some ({ p with groups := outer }, bytes) else none
  | form, groups =>
    if groupLimit ≤ groups.length then none
    else if groups.isEmpty ∧ mark.tag = typeTag then
      if form = .number then
        (TaggedField.readNumber bytes).map fun (n, rest) =>
          ({ p with fields := { p.fields with type := signed n } }, rest)
      else none
    else if groups.isEmpty ∧ mark.tag = keyTag then
      if form = .counted then
        (TaggedField.readCounted bytes).map fun (key, rest) =>
          ({ p with fields := { p.fields with key := key } }, rest)
      else none
    else if form = .opening then some ({ p with groups := mark.tag :: groups }, bytes)
    else (TaggedField.skip form bytes).map fun rest => (p, rest)

theorem length_of_readContent {p q : Progress} {mark : FieldMark} {bytes rest : Bytes}
    (h : readContent p mark bytes = some (q, rest)) : rest.length ≤ bytes.length := by
  unfold readContent at h
  split at h
  · simp at h
  · split at h
    · simp only [Option.some.injEq, Prod.mk.injEq] at h
      simp [h.2]
    · simp at h
  · split at h
    · simp at h
    split at h
    · split at h
      · obtain ⟨⟨_, _⟩, hn, he⟩ := Option.map_eq_some_iff.1 h
        simp only [Prod.mk.injEq] at he
        exact he.2 ▸ Nat.le_of_lt (TaggedField.length_of_readNumber hn)
      · simp at h
    split at h
    · split at h
      · obtain ⟨⟨_, _⟩, hn, he⟩ := Option.map_eq_some_iff.1 h
        simp only [Prod.mk.injEq] at he
        exact he.2 ▸ Nat.le_of_lt (TaggedField.length_of_readCounted hn)
      · simp at h
    split at h
    · simp only [Option.some.injEq, Prod.mk.injEq] at h
      simp [h.2]
    · obtain ⟨_, hs, he⟩ := Option.map_eq_some_iff.1 h
      simp only [Prod.mk.injEq] at he
      exact he.2 ▸ TaggedField.length_of_skip hs

/-- Reads field after field. At the end no group may be open. -/
def readFields (p : Progress) (bytes : Bytes) : Option Fields :=
  if bytes = [] then
    if p.groups = [] then some p.fields else none
  else
    match hm : TaggedField.readMark bytes with
    | none => none
    | some (mark, content) =>
      match hc : readContent p mark content with
      | none => none
      | some (q, rest) =>
        have : rest.length < bytes.length :=
          Nat.lt_of_le_of_lt (length_of_readContent hc) (TaggedField.length_of_readMark hm)
        readFields q rest
termination_by bytes.length

/-- Reads a key file. If nothing is said about the type of key, it is the first one. -/
def decode (content : Bytes) : Except KeyError KeyPair :=
  match readFields ⟨⟨0, []⟩, []⟩ content with
  | none => .error .malformed
  | some fields =>
    match fields.type with
    | 0 => .error (.unsupported "rsa")
    | 1 =>
      match KeyPair.ofBytes? fields.key with
      | some pair => .ok pair
      | none => .error .mismatched
    | 2 => .error (.unsupported "secp256k1")
    | 3 => .error (.unsupported "ecdsa")
    | type => .error (.unknownType type)

def encode (k : KeyPair) : Bytes := [8, 1, 18, 64] ++ k.toBytes

end KeyFile

/-- The public key as it stands, behind a header that says so. -/
def peerId (k : KeyPair) : String :=
  Numeral.base58.encode ([0, 36, 8, 1, 18, 32] ++ k.publicKey.1)

/-- The key in the file, or a new one from the seed if there is no file, with the file's content
afterwards. -/
def loadOrCreate (content : Option Bytes) (seed : Octets 32) : Except KeyError (KeyPair × Bytes) :=
  match content with
  | some bytes => do pure (← KeyFile.decode bytes, bytes)
  | none => pure (.ofSeed seed, KeyFile.encode (.ofSeed seed))

end BeaconGossip.Identity
