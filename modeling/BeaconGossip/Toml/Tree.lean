import BeaconGossip.Toml

namespace BeaconGossip.Toml

inductive Node where
  | leaf (value : Toml)
  /-- `defined` by a header, or made on the way to another table; `dotted` if a dotted key made
  it. -/
  | table (defined dotted : Bool) (entries : List (String × Node))
  /-- The tables that one repeated header has opened. -/
  | tables (items : List (List (String × Node)))

abbrev Entries := List (String × Node)

namespace Entries

/-- Puts a node in place of the one under the key, or at the end. -/
def put (entries : Entries) (key : String) (node : Node) : Entries :=
  match entries with
  | [] => [(key, node)]
  | (k, n) :: rest => if k = key then (k, node) :: rest else (k, n) :: put rest key node

/-- Changes the table at the path, which is made as far as it is missing. The change is told whether
the table was made by a dotted key. A dotted key does not lead into a table defined elsewhere. -/
def within (byDottedKey : Bool) (change : Bool → Entries → Option Entries) :
    List String → Bool → Entries → Option Entries
  | [], dotted, entries => change dotted entries
  | key :: path, _, entries =>
    match entries.lookup key with
    | none => do
      let sub ← within byDottedKey change path byDottedKey []
      pure (entries.put key (.table false byDottedKey sub))
    | some (.leaf _) => none
    | some (.table defined dotted sub) =>
      if byDottedKey && defined then none
      else do
        let sub ← within byDottedKey change path dotted sub
        pure (entries.put key (.table defined dotted sub))
    | some (.tables items) =>
      match items.getLast? with
      | none => none
      | some last => do
        let last ← within byDottedKey change path false last
        pure (entries.put key (.tables (items.dropLast ++ [last])))

/-- Adds a value under a key; the path before it comes from the same dotted key. -/
def insert (entries : Entries) (path : List String) (key : String) (value : Toml) :
    Option Entries :=
  within true
    (fun dotted entries =>
      if dotted = path.isEmpty then none
      else if (entries.lookup key).isSome then none
      else some (entries.put key (.leaf value)))
    path false entries

end Entries

/-- The content that a header starts from: that of a table made on the way to others, else none. -/
def reopened (key : String) (entries : Entries) : Option Entries :=
  match entries.lookup key with
  | none => some []
  | some (.table false false sub) => some sub
  | some _ => none

/-- Defines the table at the path. Its content is made from what it starts from. -/
def defineTable (entries : Entries) (path : List String) (key : String)
    (fill : Entries → Option Entries) : Option Entries :=
  Entries.within false
    (fun _ entries => do
      let body ← fill (← reopened key entries)
      pure (entries.put key (.table true false body)))
    path false entries

/-- Adds a table to those of a repeated header. -/
def appendTable (entries : Entries) (path : List String) (key : String)
    (fill : Entries → Option Entries) : Option Entries :=
  Entries.within false
    (fun _ entries => do
      let body ← fill []
      match entries.lookup key with
      | none => pure (entries.put key (.tables [body]))
      | some (.tables items) => pure (entries.put key (.tables (items ++ [body])))
      | some _ => none)
    path false entries

mutual

def Node.toToml : Node → Toml
  | .leaf value => value
  | .table _ _ entries => .table (entriesToToml entries)
  | .tables items => .array (tablesToToml items)

def entriesToToml : List (String × Node) → List (String × Toml)
  | [] => []
  | (key, node) :: rest => (key, node.toToml) :: entriesToToml rest

def tablesToToml : List (List (String × Node)) → List Toml
  | [] => []
  | entries :: rest => .table (entriesToToml entries) :: tablesToToml rest

end

end BeaconGossip.Toml
