import BeaconGossip.Toml.Token

namespace BeaconGossip.Toml

/-- A character that an escape stands for. -/
def escaped : Reader Char
  | 'b' :: rest => some ('\x08', rest)
  | 't' :: rest => some ('\t', rest)
  | 'n' :: rest => some ('\n', rest)
  | 'f' :: rest => some ('\x0c', rest)
  | 'r' :: rest => some ('\r', rest)
  | '"' :: rest => some ('"', rest)
  | '\\' :: rest => some ('\\', rest)
  | 'u' :: rest => scalar 4 rest
  | 'U' :: rest => scalar 8 rest
  | _ => none
where
  /-- A code point of `n` hexadecimal digits that is a character. -/
  scalar (n : Nat) (text : List Char) : Option (Char × List Char) :=
    let ds := text.take n
    let code := ofDigits 16 ds
    if ds.length = n ∧ ds.all isHexDigit ∧ code.isValidChar then
      some (Char.ofNat code, text.drop n)
    else none

/-- The rest of a basic string. -/
def basicBody : (fuel : Nat) → Reader (List Char)
  | 0, _ => none
  | _, [] => none
  | _, '"' :: rest => some ([], rest)
  | fuel + 1, '\\' :: rest => do
    let (c, rest) ← escaped rest
    let (cs, rest) ← basicBody fuel rest
    pure (c :: cs, rest)
  | fuel + 1, c :: rest =>
    if isPrintable c then (basicBody fuel rest).map fun (cs, rest) => (c :: cs, rest) else none

/-- The rest of a literal string. -/
def literalBody : Reader (List Char)
  | [] => none
  | '\'' :: rest => some ([], rest)
  | c :: rest =>
    if isPrintable c then (literalBody rest).map fun (cs, rest) => (c :: cs, rest) else none

def skipBlankLines : (fuel : Nat) → List Char → List Char
  | 0, text => text
  | fuel + 1, text =>
    match lineEnd? (skipBlanks text) with
    | some rest => skipBlankLines fuel rest
    | none => skipBlanks text

/-- After a backslash: blanks up to the end of the line, and all blank space that follows. -/
def lineContinuation? (text : List Char) : Option (List Char) :=
  (lineEnd? (skipBlanks text)).map fun rest => skipBlankLines (rest.length + 1) rest

/-- The marks of a closing delimiter; up to two more before it belong to the string. -/
def closing (mark : Char) (text : List Char) : Option (List Char × List Char) :=
  let marks := (text.takeWhile (· = mark)).length
  if marks < 3 then none
  else some (List.replicate (min marks 5 - 3) mark, text.drop (min marks 5))

/-- The rest of a basic string of several lines, whose line ends have been made uniform. -/
def longBasicBody : (fuel : Nat) → Reader (List Char)
  | 0, _ => none
  | _, [] => none
  | fuel + 1, '"' :: rest =>
    match closing '"' ('"' :: rest) with
    | some r => some r
    | none => (longBasicBody fuel rest).map fun (cs, rest) => ('"' :: cs, rest)
  | fuel + 1, '\\' :: rest =>
    match lineContinuation? rest with
    | some rest => longBasicBody fuel rest
    | none => do
      let (c, rest) ← escaped rest
      let (cs, rest) ← longBasicBody fuel rest
      pure (c :: cs, rest)
  | fuel + 1, '\r' :: '\n' :: rest =>
    (longBasicBody fuel rest).map fun (cs, rest) => ('\n' :: cs, rest)
  | fuel + 1, c :: rest =>
    if isPrintable c || c = '\n' then
      (longBasicBody fuel rest).map fun (cs, rest) => (c :: cs, rest)
    else none

def longLiteralBody : (fuel : Nat) → Reader (List Char)
  | 0, _ => none
  | _, [] => none
  | fuel + 1, '\'' :: rest =>
    match closing '\'' ('\'' :: rest) with
    | some r => some r
    | none => (longLiteralBody fuel rest).map fun (cs, rest) => ('\'' :: cs, rest)
  | fuel + 1, '\r' :: '\n' :: rest =>
    (longLiteralBody fuel rest).map fun (cs, rest) => ('\n' :: cs, rest)
  | fuel + 1, c :: rest =>
    if isPrintable c || c = '\n' then
      (longLiteralBody fuel rest).map fun (cs, rest) => (c :: cs, rest)
    else none

/-- A line end right after the opening delimiter does not count. -/
def skipFirstLineEnd (text : List Char) : List Char := (lineEnd? text).getD text

/-- A string on one line. -/
def shortString : Reader (List Char)
  | '"' :: rest => basicBody (rest.length + 1) rest
  | '\'' :: rest => literalBody rest
  | _ => none

def readQuoted : Reader (List Char)
  | '"' :: '"' :: '"' :: rest =>
    let rest := skipFirstLineEnd rest
    longBasicBody (rest.length + 1) rest
  | '\'' :: '\'' :: '\'' :: rest =>
    let rest := skipFirstLineEnd rest
    longLiteralBody (rest.length + 1) rest
  | text => shortString text

end BeaconGossip.Toml
