namespace BeaconGossip.Text

def lowerHexDigit (n : Nat) : Char :=
  if n < 10 then Char.ofNat (48 + n) else Char.ofNat (87 + n)

/-- Lowercase hexadecimal digits of a number, without leading zeros. -/
def lowerHex (n : Nat) : List Char := (Nat.toDigits 16 n).map (·.toLower)

/-- A character of the first 256 code points that has no glyph of its own: the control characters,
the no-break space and the soft hyphen. -/
def isInvisible (c : Char) : Bool :=
  c.toNat < 0x20 || (0x7f ≤ c.toNat && c.toNat ≤ 0xa0) || c.toNat = 0xad

/-- The characters that stand for one of the first 256 code points inside a literal. -/
def escapeChar (c : Char) : List Char :=
  match c with
  | '\x00' => ['\\', '0']
  | '\t' => ['\\', 't']
  | '\n' => ['\\', 'n']
  | '\r' => ['\\', 'r']
  | '\'' => ['\\', '\'']
  | '\\' => ['\\', '\\']
  | c => if isInvisible c then ['\\', 'u', '\x7b'] ++ lowerHex c.toNat ++ ['\x7d'] else [c]

def charLiteral (c : Char) : String := String.ofList ('\'' :: escapeChar c ++ ['\''])

end BeaconGossip.Text
