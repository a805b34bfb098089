import BeaconGossip.Text.Decimal
import BeaconGossip.Topic.Parser

namespace BeaconGossip.HostName

/-- The characters of a name, with `none` for each dot between labels. -/
def unescape : List Char → Option (List (Option Char))
  | [] => some []
  | '.' :: rest => (unescape rest).map (none :: ·)
  | '\\' :: a :: rest =>
    match Text.Decimal.digit? a with
    | none => (unescape rest).map (some a :: ·)
    | some x =>
      match rest with
      | b :: c :: rest =>
        match Text.Decimal.digit? b, Text.Decimal.digit? c with
        | some y, some z =>
          let code := 100 * x + 10 * y + z
          if code < 256 then (unescape rest).map (some (Char.ofNat code) :: ·) else none
        | _, _ => none
      | _ => none
  | '\\' :: [] => none
  | c :: rest => (unescape rest).map (some c :: ·)

/-- The labels of a name. A dot at the end does not begin another one. -/
def labels : List (Option Char) → List (List Char)
  | [] => [[]]
  | none :: [] => [[]]
  | none :: rest => [] :: labels rest
  | some c :: rest =>
    match labels rest with
    | [] => [[c]]
    | first :: others => (c :: first) :: others

def isLabelChar (c : Char) : Bool := c.isAlphanum || c = '-' || c = '_'

/-- Characters of a label. -/
def labelLimit : Nat := 63

/-- Characters of a name with one more for each label and for the end. -/
def nameLimit : Nat := 255

def size : List (List Char) → Nat
  | [] => 1
  | label :: rest => label.length + 1 + size rest

/-- Whether a name may be looked up. The root alone is a single dot. -/
def isValid (name : List Char) : Bool :=
  name.all (fun c => '!' ≤ c && c ≤ '~') &&
    match unescape name with
    | none => false
    | some [] => false
    | some [none] => true
    | some (first :: rest) =>
      let parts := labels (first :: rest)
      first ≠ some '-' && size parts ≤ nameLimit &&
        parts.all fun label =>
          !label.isEmpty && label.length ≤ labelLimit && label.all isLabelChar

end BeaconGossip.HostName
