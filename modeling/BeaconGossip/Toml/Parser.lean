import BeaconGossip.Toml
import BeaconGossip.Toml.Quoted
import BeaconGossip.Toml.Tree

namespace BeaconGossip.Toml

def isKeyChar (c : Char) : Bool := c.isAlphanum || c = '-' || c = '_'

/-- One part of a key, with the blanks around it. -/
def keyPart (text : List Char) : Option (String × List Char) := do
  let text := skipBlanks text
  let (cs, rest) ←
    match text with
    | '"' :: _ | '\'' :: _ => shortString text
    | _ =>
      let cs := text.takeWhile isKeyChar
      if cs.isEmpty then none else some (cs, text.drop cs.length)
  pure (String.ofList cs, skipBlanks rest)

/-- One or more items. After a separator there may be none; then the separator is left. -/
def separated {α : Type} (separator : Char) (item : Reader α) : (fuel : Nat) → Reader (List α)
  | 0, _ => none
  | fuel + 1, text =>
    match item text with
    | none => none
    | some (a, rest) =>
      match (expect separator rest).bind (separated separator item fuel) with
      | some (as, rest) => some (a :: as, rest)
      | none => some ([a], rest)

/-- The parts of a dotted key: all but the last, and the last. -/
def key (text : List Char) : Option ((List String × String) × List Char) := do
  let (parts, rest) ← separated '.' keyPart (text.length + 1) text
  let last ← parts.getLast?
  if parts.length < depthLimit then pure ((parts.dropLast, last), rest) else none

/-- A key, the sign and a value. -/
def assignment (value : Reader Toml) (text : List Char) :
    Option ((List String × String × Toml) × List Char) := do
  let ((path, last), rest) ← key text
  let (v, rest) ← value (skipBlanks (← expect '=' rest))
  pure ((path, last, v), rest)

def insertAll (entries : Entries) : List (List String × String × Toml) → Option Entries
  | [] => some entries
  | (path, key, value) :: rest => do insertAll (← entries.insert path key value) rest

/-- What follows the opening bracket of an array. -/
def arrayRest (value : Reader Toml) (text : List Char) : Option (Toml × List Char) :=
  let item : Reader Toml := fun text =>
    (value (skipSpace text)).map fun (v, rest) => (v, skipSpace rest)
  match separated ',' item (text.length + 1) text with
  | some (items, rest) =>
    let rest := ((expect ',' rest).map skipSpace).getD rest
    (expect ']' rest).map fun rest => (.array items, rest)
  | none => (expect ']' (skipSpace text)).map fun rest => (.array [], rest)

/-- What follows the opening brace of a table on one line. -/
def inlineTableRest (value : Reader Toml) (text : List Char) : Option (Toml × List Char) := do
  let item : Reader (List String × String × Toml) := fun text =>
    (assignment value text).map fun (a, rest) => (a, skipBlanks rest)
  let (items, rest) := (separated ',' item (text.length + 1) text).getD ([], text)
  let entries ← insertAll [] items
  let rest ← expect '\x7d' (skipBlanks rest)
  pure (.table (entriesToToml entries), rest)

/-- Reads a value; arrays and tables may hold values down to the given depth. -/
def value : (depth : Nat) → Reader Toml
  | depth, text =>
    match text with
    | '"' :: _ | '\'' :: _ =>
      (readQuoted text).map fun (cs, rest) => (.string (String.ofList cs), rest)
    | '[' :: rest =>
      match depth with
      | 0 => none
      | depth + 1 => arrayRest (value depth) rest
    | '\x7b' :: rest =>
      match depth with
      | 0 => none
      | depth + 1 => inlineTableRest (value depth) rest
    | 't' :: 'r' :: 'u' :: 'e' :: rest => some (.boolean true, rest)
    | 'f' :: 'a' :: 'l' :: 's' :: 'e' :: rest => some (.boolean false, rest)
    | text => (readTime text).or ((readFloat text).or (readInteger text))

/-- One line of content. -/
inductive Line where
  | assignment (path : List String) (key : String) (value : Toml)
  | header (path : List String) (key : String)
  | repeatedHeader (path : List String) (key : String)

def line (text : List Char) : Option (Line × List Char) := do
  match text with
  | '[' :: '[' :: rest =>
    let ((path, key), rest) ← key rest
    pure (.repeatedHeader path key, ← lineTrailing? (← expect ']' (← expect ']' rest)))
  | '[' :: rest =>
    let ((path, key), rest) ← key rest
    pure (.header path key, ← lineTrailing? (← expect ']' rest))
  | text =>
    let ((path, key, v), rest) ← assignment (value (depthLimit - 1)) text
    pure (.assignment path key v, ← lineTrailing? rest)

/-- The lines with content. Blank lines and comments are left out. -/
def lines : (fuel : Nat) → List Char → Option (List Line)
  | 0, _ => none
  | fuel + 1, text =>
    match skipBlanks text with
    | [] => some []
    | text =>
      match lineTrailing? text with
      | some rest => lines fuel rest
      | none => do
        let (l, rest) ← line text
        pure (l :: (← lines fuel rest))

/-- A table under construction, and what is left to do with it once it is complete. -/
structure Section where
  place : Option (Bool × List String × String)
  assignments : List (List String × String × Toml)

/-- Splits the lines at the headers. -/
def sections : List Line → List Section
  | [] => [⟨none, []⟩]
  | .assignment path key v :: rest =>
    match sections rest with
    | [] => []
    | first :: others => { first with assignments := (path, key, v) :: first.assignments } :: others
  | .header path key :: rest =>
    match sections rest with
    | [] => []
    | first :: others => ⟨none, []⟩ :: { first with place := some (false, path, key) } :: others
  | .repeatedHeader path key :: rest =>
    match sections rest with
    | [] => []
    | first :: others => ⟨none, []⟩ :: { first with place := some (true, path, key) } :: others

def addSection (entries : Entries) (s : Section) : Option Entries :=
  let fill (entries : Entries) := insertAll entries s.assignments
  match s.place with
  | none => fill entries
  | some (false, path, key) => defineTable entries path key fill
  | some (true, path, key) => appendTable entries path key fill

def addSections (entries : Entries) : List Section → Option Entries
  | [] => some entries
  | s :: rest => do addSections (← addSection entries s) rest

/-- Leaves out a byte order mark at the start. -/
def skipMark : List Char → List Char
  | '\uFEFF' :: rest => rest
  | text => text

/-- The top table of the document, if it is well formed. -/
def parse? (document : String) : Option Toml := do
  let text := skipMark document.toList
  let entries ← addSections [] (sections (← lines (text.length + 1) text))
  pure (.table (entriesToToml entries))

end BeaconGossip.Toml
