import BeaconGossip.Text.Letter
import BeaconGossip.Toml.Token

namespace BeaconGossip.LogFilter.Pattern

/-- What an escape stands for. -/
inductive Atom where
  | char (c : Char)
  | charClass
  /-- A condition on the place, such as the start of the text. -/
  | place
  deriving DecidableEq

/-- A character by the digits of its code. -/
def hexChar? (count : Nat) (text : List Char) : Option (Atom × List Char) :=
  let digits := text.take count
  let code := Toml.ofDigits 16 digits
  if digits.length = count && digits.all Toml.isHexDigit && decide code.isValidChar then
    some (.char (Char.ofNat code), text.drop count)
  else none

/-- Letters for the large groups of characters: letters, marks, numbers and so on. -/
def isGroupLetter (c : Char) : Bool := c.toUpper ∈ "LMNPSZC".toList

/-- Reads what stands behind a backslash. Borders of words are refused. -/
def escape : List Char → Option (Atom × List Char)
  | [] => none
  | 'x' :: rest => hexChar? 2 rest
  | 'u' :: rest => hexChar? 4 rest
  | 'U' :: rest => hexChar? 8 rest
  | 'p' :: c :: rest | 'P' :: c :: rest => if isGroupLetter c then some (.charClass, rest) else none
  | c :: rest =>
    if c ∈ "dDsSwW".toList then some (.charClass, rest)
    else if c ∈ "Az".toList then some (.place, rest)
    else if c = 'a' then some (.char '\x07', rest)
    else if c = 'f' then some (.char '\x0c', rest)
    else if c = 't' then some (.char '\t', rest)
    else if c = 'n' then some (.char '\n', rest)
    else if c = 'r' then some (.char '\r', rest)
    else if c = 'v' then some (.char '\x0b', rest)
    else if c.toNat < 128 && !c.isAlphanum && c ≠ '<' && c ≠ '>' then some (.char c, rest)
    else none

/-- Takes `^` and the characters that stand for themselves at the start of a character class. -/
def classStart (text : List Char) : List Char :=
  let text :=
    match text with
    | '^' :: rest => rest
    | text => text
  match text with
  | '-' :: rest => rest.dropWhile (· = '-')
  | ']' :: rest => rest
  | text => text

def classNames : List String :=
  ["alnum", "alpha", "ascii", "blank", "cntrl", "digit", "graph", "lower", "print", "punct",
    "space", "upper", "word", "xdigit"]

/-- A named class such as `[:alpha:]`, behind its opening bracket. -/
def namedClass? (text : List Char) : Option (List Char) :=
  match text with
  | ':' :: rest =>
    let rest :=
      match rest with
      | '^' :: rest => rest
      | rest => rest
    let name := rest.takeWhile (· ≠ ':')
    match rest.drop name.length with
    | ':' :: ']' :: rest => if String.ofList name ∈ classNames then some rest else none
    | _ => none
  | _ => none

/-- One member of a character class. -/
def classItem : List Char → Option (Atom × List Char)
  | [] => none
  | '\\' :: rest => escape rest
  | c :: rest => some (.char c, rest)

/-- A member or a range of members, whose ends are characters in ascending order. -/
def classRange (text : List Char) : Option (List Char) := do
  let (first, rest) ← classItem text
  match rest with
  | '-' :: ']' :: _ | '-' :: '-' :: _ =>
    if first = .place then none else some rest
  | '-' :: rest =>
    let (last, rest) ← classItem rest
    match first, last with
    | .char a, .char b => if a ≤ b then some rest else none
    | _, _ => none
  | rest => if first = .place then none else some rest

/-- Reads on inside so many nested character classes. -/
def classRest : (fuel : Nat) → (depth : Nat) → List Char → Option (List Char)
  | _, 0, text => some text
  | 0, _, _ => none
  | fuel + 1, depth + 1, text =>
    match text with
    | [] => none
    | ']' :: rest => classRest fuel depth rest
    | '[' :: rest =>
      match namedClass? rest with
      | some rest => classRest fuel (depth + 1) rest
      | none => classRest fuel (depth + 2) (classStart rest)
    | '&' :: '&' :: rest | '-' :: '-' :: rest | '~' :: '~' :: rest =>
      classRest fuel (depth + 1) rest
    | text => (classRange text).bind (classRest fuel (depth + 1))

/-- Flags in a group: letters, once each, and one minus sign that is not the last. -/
def isFlags (text : List Char) : Bool :=
  text.all (· ∈ "imsUuRx-".toList) && text.eraseDups.length = text.length &&
    text.getLast? ≠ some '-'

def isNameStart (c : Char) : Bool := c = '_' || Text.isLetter c

def isNameChar (c : Char) : Bool :=
  c = '_' || c ∈ ".[]".toList || Text.isLetterOrNumber c

/-- What a group opens with. -/
inductive Opening where
  | plain
  | named (name : List Char)
  /-- Flags for what follows, without a group of their own. -/
  | flags

def groupName (text : List Char) : Option (Opening × List Char) :=
  let name := text.takeWhile (· ≠ '>')
  match name, text.drop name.length with
  | c :: cs, '>' :: rest =>
    if isNameStart c && cs.all isNameChar then some (.named name, rest) else none
  | _, _ => none

/-- Reads what stands behind the opening bracket of a group. -/
def groupStart (text : List Char) : Option (Opening × List Char) :=
  match text with
  | '?' :: 'P' :: '<' :: rest => groupName rest
  | '?' :: '<' :: rest => groupName rest
  | '?' :: rest =>
    let flags := rest.takeWhile fun c => c ≠ ':' && c ≠ ')'
    if !isFlags flags then none
    else
      match rest.drop flags.length with
      | ':' :: rest => some (.plain, rest)
      | ')' :: rest => if flags.isEmpty then none else some (.flags, rest)
      | _ => none
  | text => some (.plain, text)

/-- What has been read of a pattern. -/
structure Progress where
  /-- Groups that are open. -/
  depth : Nat
  names : List (List Char)
  /-- Whether there is something to repeat. -/
  repeatable : Bool

/-- Reads one part of a pattern. -/
def step (p : Progress) (c : Char) (rest : List Char) : Option (Progress × List Char) :=
  match c with
  | '(' =>
    match groupStart rest with
    | none => none
    | some (.flags, rest) => some ({ p with repeatable := false }, rest)
    | some (.plain, rest) => some ({ p with depth := p.depth + 1, repeatable := false }, rest)
    | some (.named name, rest) =>
      if name ∈ p.names then none
      else some (⟨p.depth + 1, name :: p.names, false⟩, rest)
  | ')' =>
    match p.depth with
    | 0 => none
    | depth + 1 => some ({ p with depth := depth, repeatable := true }, rest)
  | '|' => some ({ p with repeatable := false }, rest)
  | '*' | '+' | '?' => if p.repeatable then some (p, rest) else none
  | '{' => none
  | '[' =>
    (classRest (rest.length + 1) 1 (classStart rest)).map fun rest =>
      ({ p with repeatable := true }, rest)
  | '\\' => (escape rest).map fun (_, rest) => ({ p with repeatable := true }, rest)
  | _ => some ({ p with repeatable := true }, rest)

def run : (fuel : Nat) → Progress → List Char → Bool
  | _, p, [] => p.depth = 0
  | 0, _, _ :: _ => false
  | fuel + 1, p, c :: rest =>
    match step p c rest with
    | none => false
    | some (p, rest) => run fuel p rest

def isValid (text : List Char) : Bool := run text.length ⟨0, [], false⟩ text

end BeaconGossip.LogFilter.Pattern
