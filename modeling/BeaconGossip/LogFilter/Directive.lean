import BeaconGossip.LogFilter.Pattern
import BeaconGossip.Text.Utf8

namespace BeaconGossip.Text

def isBlank (c : Char) : Bool :=
  let code := c.toNat
  (9 ≤ code && code ≤ 13) || code = 0x20 || code = 0x85 || code = 0xa0 || code = 0x1680 ||
    (0x2000 ≤ code && code ≤ 0x200a) || code = 0x2028 || code = 0x2029 || code = 0x202f ||
    code = 0x205f || code = 0x3000

def trim (text : List Char) : List Char :=
  ((text.dropWhile isBlank).reverse.dropWhile isBlank).reverse

end BeaconGossip.Text

namespace BeaconGossip.LogFilter

/-- The name of a value that a line must have, and whether the value itself is asked for. -/
structure FieldWish where
  name : List Char
  withValue : Bool
  deriving DecidableEq

structure Directive where
  target : Option (List Char)
  /-- Whether a span is named in which the line must lie. -/
  inSpan : Bool
  fields : List FieldWish
  /-- The rank up to which lines are written. -/
  most : Nat
  deriving DecidableEq

/-- The rank at which everything is written. -/
def fullRank : Nat := 5

def lower (text : List Char) : String := String.ofList (text.map Char.toLower)

/-- A level by number or by name, in any case. -/
def rank? (text : List Char) : Option Nat :=
  match Text.Decimal.read (UInt64.size - 1) text with
  | .ok n => if n ≤ fullRank then some n else none
  | .error _ =>
    match lower text with
    | "off" => some 0
    | "" | "error" => some 1
    | "warn" => some 2
    | "info" => some 3
    | "debug" => some 4
    | "trace" => some 5
    | _ => none

namespace FieldWish

/-- One or more digits at the front are taken off. -/
def dropDigits? (text : List Char) : Option (List Char) :=
  let digits := text.takeWhile Toml.isDigit
  if digits.isEmpty then none else some (text.drop digits.length)

/-- Digits with a point among them, before them or behind them. -/
def dropDecimal? (text : List Char) : Option (List Char) :=
  match dropDigits? text with
  | some ('.' :: rest) => some ((dropDigits? rest).getD rest)
  | some rest => some rest
  | none => (Toml.expect '.' text).bind dropDigits?

/-- A decimal number without a sign, with an exponent or without, or a name of one. -/
def isNumber (text : List Char) : Bool :=
  if lower text ∈ ["inf", "infinity", "nan"] then true
  else
    match dropDecimal? text with
    | none => false
    | some [] => true
    | some (c :: rest) =>
      let digits :=
        match rest with
        | '+' :: rest | '-' :: rest => rest
        | rest => rest
      c.toLower = 'e' && dropDigits? digits = some []

/-- A value is a number or a pattern; only a sign of plus makes a difference between them. -/
def isValue (text : List Char) : Bool :=
  match text with
  | '+' :: rest => isNumber rest
  | text => Pattern.isValid text

/-- A name, with a value behind the first equals sign. What follows another one does not count. -/
def ofText? (text : List Char) : Option FieldWish :=
  let name := text.takeWhile (· ≠ '=')
  match text.drop name.length with
  | [] => if text.isEmpty then none else some ⟨name, false⟩
  | _ :: rest => if isValue (rest.takeWhile (· ≠ '=')) then some ⟨name, true⟩ else none

end FieldWish

namespace Directive

/-- What is being read of a directive, and where it started. -/
inductive Part where
  | start
  | levelOrTarget (first : Nat)
  | span (first : Nat)
  | field (first : Nat)
  /-- Behind the fields, where the brackets close. -/
  | fieldsEnd
  /-- Behind the brackets. -/
  | bracketEnd
  | level (first : Nat)

def empty : Directive := ⟨none, false, [], fullRank⟩

def isStart (c : Char) : Bool := c = '-' || c = ':' || c = '_' || Text.isLetterOrNumber c

/-- Goes on over the character at the position. Parts are cut out of `whole`. -/
def step (whole : List Char) (d : Directive) (part : Part) (position : Nat) (c : Char) :
    Option (Directive × Part) :=
  match part with
  | .start =>
    if c = '[' then some (d, .span (position + 1))
    else if isStart c then some (d, .levelOrTarget position)
    else none
  | .levelOrTarget first =>
    if c = '=' then do
      let target ← Text.Utf8.slice? first position whole
      pure ({ d with target := some target }, .level (position + 1))
    else if c = '[' then do
      let target ← Text.Utf8.slice? first position whole
      pure ({ d with target := some target }, .span (position + 1))
    else some (d, part)
  | .span first =>
    if c = ']' then some ({ d with inSpan := true }, .bracketEnd)
    else if c = '{' then do
      let name ← Text.Utf8.slice? first position whole
      pure ({ d with inSpan := !name.isEmpty }, .field (position + 1))
    else some (d, part)
  | .field first =>
    if c = '}' then do
      let field ← FieldWish.ofText? (← Text.Utf8.slice? first position whole)
      pure ({ d with fields := d.fields ++ [field] }, .fieldsEnd)
    else some (d, part)
  | .fieldsEnd => if c = ']' then some (d, .bracketEnd) else none
  | .bracketEnd => if c = '=' then some (d, .level (position + 1)) else none
  | .level _ => some (d, part)

/-- The end of the text. A target without a level writes everything, as does an empty level. -/
def finish (whole : List Char) (d : Directive) (part : Part) : Option Directive :=
  match part with
  | .levelOrTarget first => do
    let text ← Text.Utf8.drop? first whole
    match rank? text with
    | some most => pure { d with most := most }
    | none => pure { d with target := some text }
  | .level first => do
    let text ← Text.Utf8.drop? first whole
    if text.isEmpty then pure d
    else
      let most ← rank? text
      pure { d with most := most }
  | .bracketEnd => some d
  | _ => none

def scan (whole : List Char) (d : Directive) (part : Part) (position : Nat) :
    List Char → Option Directive
  | [] => finish whole d part
  | c :: rest =>
    match step whole d part position c with
    | none => none
    | some (d, part) => scan whole d part (position + c.utf8Size) rest

/-- Reads a directive. Blanks around it are passed over, but positions are counted without them
while the parts are cut out of the text with them. So behind blanks at the start every part begins
and ends too early, and blanks at the end belong to the last part. -/
def ofText? (text : List Char) : Option Directive := scan text empty .start 0 (Text.trim text)

end Directive

end BeaconGossip.LogFilter
