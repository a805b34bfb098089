import BeaconGossip.Toml.Token

namespace BeaconGossip

inductive Toml where
  | string (s : String)
  | integer (i : Int)
  | float
  | boolean (b : Bool)
  | time
  | array (items : List Toml)
  | table (entries : List (String × Toml))

namespace Toml

def inRange (i : Int) : Option Int :=
  if Int64.minValue.toInt ≤ i ∧ i ≤ Int64.maxValue.toInt then some i else none

/-- A sign and digits, the first of which is no zero unless it stands alone. -/
structure Decimal where
  negative : Bool
  digits : List Char

def sign : List Char → Bool × List Char
  | '-' :: rest => (true, rest)
  | '+' :: rest => (false, rest)
  | text => (false, text)

def decimal (text : List Char) : Option (Decimal × List Char) :=
  let (negative, text) := sign text
  match text with
  | '0' :: rest => some (⟨negative, ['0']⟩, rest)
  | text => (digits isDigit text).map fun (ds, rest) => (⟨negative, ds⟩, rest)

def Decimal.toInt (d : Decimal) : Int :=
  let n : Int := ofDigits 10 d.digits
  if d.negative then -n else n

def ofBase (base : Nat) (isDigit : Char → Bool) (text : List Char) :
    Option (Toml × List Char) := do
  let (ds, rest) ← digits isDigit text
  pure (.integer (← inRange (ofDigits base ds)), rest)

def readInteger : Reader Toml
  | '0' :: 'x' :: rest => ofBase 16 isHexDigit rest
  | '0' :: 'o' :: rest => ofBase 8 (fun c => '0' ≤ c && c ≤ '7') rest
  | '0' :: 'b' :: rest => ofBase 2 (fun c => c = '0' || c = '1') rest
  | text => do
    let (d, rest) ← decimal text
    pure (.integer (← inRange d.toInt), rest)

/-- The least number that rounds to infinity. -/
def overflowBound : Nat := Nat.pow 2 1024 - Nat.pow 2 970

/-- Whether `digits · 10 ^ exponent` is at least the bound. The bound has 309 digits, so far from
that the number of digits decides. -/
def overflows (digits : List Char) (exponent : Int) : Bool :=
  let digits := digits.dropWhile (· = '0')
  let magnitude : Int := digits.length + exponent
  if digits.isEmpty then false
  else if magnitude < 309 then false
  else if 309 < magnitude then true
  else if 0 ≤ exponent then decide (overflowBound ≤ ofDigits 10 digits * Nat.pow 10 exponent.toNat)
  else decide (overflowBound * Nat.pow 10 (-exponent).toNat ≤ ofDigits 10 digits)

/-- Digits after a decimal point. -/
def fraction : Reader (List Char)
  | '.' :: rest => digits isDigit rest
  | _ => none

def exponent : Reader Int
  | c :: rest =>
    if c = 'e' || c = 'E' then do
      let (negative, rest) := sign rest
      let (ds, rest) ← digits isDigit rest
      let n : Int := ofDigits 10 ds
      pure (if negative then -n else n, rest)
    else none
  | [] => none

/-- A fraction, an exponent, or both in this order. -/
def fractionOrExponent (text : List Char) : Option ((List Char × Int) × List Char) :=
  match fraction text with
  | some (ds, rest) =>
    match exponent rest with
    | some (e, rest) => some ((ds, e), rest)
    | none => some ((ds, 0), rest)
  | none => (exponent text).map fun (e, rest) => (([], e), rest)

def specialFloat (text : List Char) : Option (Toml × List Char) :=
  match (sign text).2 with
  | 'i' :: 'n' :: 'f' :: rest => some (.float, rest)
  | 'n' :: 'a' :: 'n' :: rest => some (.float, rest)
  | _ => none

def readFloat (text : List Char) : Option (Toml × List Char) :=
  match specialFloat text with
  | some r => some r
  | none => do
    let (whole, rest) ← decimal text
    let ((fraction, exponent), rest) ← fractionOrExponent rest
    let digits := whole.digits ++ fraction
    if !whole.negative && overflows digits (exponent - fraction.length) then none
    else pure (.float, rest)

/-- A number of two digits between the bounds. -/
def twoDigits (low high : Nat) (text : List Char) : Option (Nat × List Char) := do
  let (n, rest) ← fixedDigits 2 text
  if low ≤ n ∧ n ≤ high then pure (n, rest) else none

def isLeapYear (year : Nat) : Bool := year % 4 = 0 && (year % 100 ≠ 0 || year % 400 = 0)

def daysIn (year month : Nat) : Nat :=
  if month = 2 then (if isLeapYear year then 29 else 28)
  else if month = 4 ∨ month = 6 ∨ month = 9 ∨ month = 11 then 30
  else 31

def date? (text : List Char) : Option (List Char) := do
  let (year, rest) ← fixedDigits 4 text
  let (month, rest) ← twoDigits 1 12 (← expect '-' rest)
  let (_, rest) ← twoDigits 1 (daysIn year month) (← expect '-' rest)
  pure rest

/-- Leaves out a fraction of a second, which may have any number of digits. -/
def skipSecondFraction : List Char → List Char
  | '.' :: c :: rest => if isDigit c then rest.dropWhile isDigit else '.' :: c :: rest
  | text => text

def timeOfDay? (text : List Char) : Option (List Char) := do
  let (_, rest) ← twoDigits 0 23 text
  let (_, rest) ← twoDigits 0 59 (← expect ':' rest)
  let (_, rest) ← twoDigits 0 60 (← expect ':' rest)
  pure (skipSecondFraction rest)

def offset? : List Char → Option (List Char)
  | c :: rest =>
    if c = 'Z' || c = 'z' then some rest
    else if c = '+' || c = '-' then do
      let (_, rest) ← twoDigits 0 23 rest
      let (_, rest) ← twoDigits 0 59 (← expect ':' rest)
      pure rest
    else none
  | [] => none

/-- The time of day after a date, if there is one. -/
def skipTimeAfterDate : List Char → List Char
  | c :: rest =>
    if c = 'T' || c = 't' || c = ' ' then
      match timeOfDay? rest with
      | some rest => (offset? rest).getD rest
      | none => c :: rest
    else c :: rest
  | [] => []

def readTime (text : List Char) : Option (Toml × List Char) :=
  match date? text with
  | some rest => some (.time, skipTimeAfterDate rest)
  | none => (timeOfDay? text).map fun rest => (.time, rest)

end Toml

end BeaconGossip
