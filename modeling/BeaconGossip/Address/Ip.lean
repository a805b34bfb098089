import BeaconGossip.Text.Decimal
import BeaconGossip.Toml.Token

namespace BeaconGossip.Ip

/-- A part of a dotted address: up to three digits, without a zero before others, below 256. -/
def part (text : List Char) : Option (Nat × List Char) :=
  let digits := text.takeWhile Toml.isDigit
  let n := Toml.ofDigits 10 digits
  if digits.isEmpty || 3 < digits.length || 255 < n then none
  else if 1 < digits.length && digits.head? = some '0' then none
  else some (n, text.drop digits.length)

/-- Four parts with dots between them, as a number of 32 bits. -/
def dotted (text : List Char) : Option (Nat × List Char) := do
  let (a, rest) ← part text
  let (b, rest) ← part (← Toml.expect '.' rest)
  let (c, rest) ← part (← Toml.expect '.' rest)
  let (d, rest) ← part (← Toml.expect '.' rest)
  pure ([a, b, c, d].foldl (fun n p => 256 * n + p) 0, rest)

def isV4 (text : List Char) : Bool := (dotted text).any (·.2.isEmpty)

/-- A group of up to four hexadecimal digits. -/
def group (text : List Char) : Option (Nat × List Char) :=
  let digits := text.takeWhile Toml.isHexDigit
  if digits.isEmpty || 4 < digits.length then none
  else some (Toml.ofDigits 16 digits, text.drop digits.length)

/-- Reads at most `most` groups with colons between them. A dotted address may stand in place of the
last two; it ends the groups. -/
def groups (first : Bool) : (most : Nat) → List Char → List Nat × Bool × List Char
  | 0, text => ([], false, text)
  | most + 1, text =>
    let start := if first then some text else Toml.expect ':' text
    match (if most = 0 then none else start.bind dotted) with
    | some (n, rest) => ([n / 65536, n % 65536], true, rest)
    | none =>
      match start.bind group with
      | none => ([], false, text)
      | some (n, rest) =>
        let (ns, ended, rest) := groups false most rest
        (n :: ns, ended, rest)

/-- Number of groups of an address of the newer kind. -/
def groupCount : Nat := 8

/-- Eight groups, or fewer with a double colon in place of at least one that is zero. -/
def grouped (text : List Char) : Option (List Nat × List Char) :=
  let (front, ended, rest) := groups true groupCount text
  if front.length = groupCount then some (front, rest)
  else if ended then none
  else
    match rest with
    | ':' :: ':' :: rest =>
      let (back, _, rest) := groups true (groupCount - (front.length + 1)) rest
      let zeros := List.replicate (groupCount - (front.length + back.length)) 0
      some (front ++ zeros ++ back, rest)
    | _ => none

/-- The groups of a text that is an address and nothing else. -/
def v6? (text : List Char) : Option (List Nat) :=
  match grouped text with
  | some (ns, []) => some ns
  | _ => none

def isV6 (text : List Char) : Bool := (v6? text).isSome

end BeaconGossip.Ip
