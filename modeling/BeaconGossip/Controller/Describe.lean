import BeaconGossip.Controller

namespace BeaconGossip.Controller

/-- A value that diagnostics show: a text, a list, or a name with items inside. -/
inductive Shown where
  | text (t : String)
  | list (items : List String)
  | wrapped (name : String) (item : String)
  | record (name : String) (fields : List (String × Shown))

namespace Shown

mutual

def line : Shown → String
  | text t => t
  | list items => "[" ++ String.intercalate ", " items ++ "]"
  | wrapped name item => name ++ "(" ++ item ++ ")"
  | record name fields => name ++ " \x7b " ++ String.intercalate ", " (fieldLines fields) ++ " \x7d"

def fieldLines : List (String × Shown) → List String
  | [] => []
  | (name, value) :: rest => (name ++ ": " ++ value.line) :: fieldLines rest

end

def indent (depth : Nat) : String := String.ofList (List.replicate (4 * depth) ' ')

/-- One item a line, each followed by a comma. -/
def stacked (depth : Nat) (opening closing : String) (items : List String) : String :=
  opening ++ "\n" ++ String.join (items.map fun item => indent (depth + 1) ++ item ++ ",\n") ++
    indent depth ++ closing

mutual

def block (depth : Nat) : Shown → String
  | text t => t
  | list items => stacked depth "[" "]" items
  | wrapped name item => stacked depth (name ++ "(") ")" [item]
  | record name fields => stacked depth (name ++ " \x7b") "\x7d" (fieldBlocks (depth + 1) fields)

def fieldBlocks (depth : Nat) : List (String × Shown) → List String
  | [] => []
  | (name, value) :: rest => (name ++ ": " ++ value.block depth) :: fieldBlocks depth rest

end

def ofVersion (v : Version) : Shown := list (v.1.map fun b => toString b.toNat)

def ofFork (f : Fork) : Shown :=
  record "Fork" [("previous_version", ofVersion f.previousVersion),
    ("current_version", ofVersion f.currentVersion), ("epoch", text (toString f.epoch.toNat))]

def ofDigest : Option ForkDigest → Shown
  | none => text "None"
  | some d => wrapped "Some" d.describe

end Shown

def shown (c : Controller) : Shown :=
  .record "GossipForkSubscriptions" [("fork", .ofFork c.fork),
    ("activation_epoch", .text (toString c.fork.epoch.toNat)), ("fork_digest", .ofDigest c.digest)]

def describe (c : Controller) : String := c.shown.line

def describeAtLength (c : Controller) : String := c.shown.block 0

end BeaconGossip.Controller
