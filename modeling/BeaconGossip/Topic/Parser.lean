import BeaconGossip.Text.Decimal
import BeaconGossip.Topic

namespace BeaconGossip

namespace Text

/-- The parts between the separators; there is always one more than there are separators. -/
def segments (separator : Char) : List Char → List (List Char)
  | [] => [[]]
  | c :: rest =>
    if c = separator then [] :: segments separator rest
    else
      match segments separator rest with
      | [] => [[c]]
      | first :: others => (c :: first) :: others

/-- What is left of the text after the given beginning. -/
def dropStart? : List Char → List Char → Option (List Char)
  | [], text => some text
  | _ :: _, [] => none
  | p :: ps, c :: text => if p = c then dropStart? ps text else none

end Text

namespace TopicKind

/-- Reads the name part of a topic; subnets must lie below `count`. -/
def ofName? (count : UInt64) (name : List Char) : Option TopicKind :=
  match Text.dropStart? (MessageClass.attestation.name ++ "_").toList name with
  | some index =>
    match Text.Decimal.read (UInt64.size - 1) index with
    | .error _ => none
    | .ok n =>
      match SubnetId.check (UInt64.ofNat n) count with
      | .ok id => some (.subnet id)
      | .error _ => none
  | none =>
    ((MessageClass.all.filter (· ≠ .attestation)).find? fun c => c.name.toList = name).map .ofClass

end TopicKind

/-- There is no answer for topics outside the prefix or with an unknown name. -/
def TopicNamer.parse? (space topic : String) (count : UInt64) : Option (ForkDigest × TopicKind) :=
  match topic.toList with
  | '/' :: rest =>
    match Text.segments '/' rest with
    | [first, digest, name, encoding] =>
      if first = space.toList then
        match ForkDigest.ofString (String.ofList digest), TopicKind.ofName? count name,
            Encoding.ofName? (String.ofList encoding) with
        | .ok d, some kind, some _ => some (d, kind)
        | _, _, _ => none
      else none
    | _ => none
  | _ => none

end BeaconGossip
