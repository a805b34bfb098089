import BeaconGossip.Fork.Schedule
import BeaconGossip.Settings

namespace BeaconGossip

structure NetworkConfig where
  listenPort : UInt16
  /-- Addresses of peers to start from. -/
  bootstrap : List String
  identityPath : Option String
  deriving DecidableEq

structure ForkEntry where
  previousVersion : String
  currentVersion : String
  epoch : Epoch
  deriving DecidableEq

structure ChainConfig where
  genesisRoot : Option String
  /-- The epoch at which the node starts to gossip. -/
  currentEpoch : Epoch
  forks : List ForkEntry
  deriving DecidableEq

structure Config where
  network : NetworkConfig
  gossip : Settings
  chain : ChainConfig
  metricsBind : String
  deriving DecidableEq

def Config.standardBind : String := "0.0.0.0:9100"

/-- A hexadecimal field that cannot be read. -/
structure FieldError where
  field : String
  size : Nat
  text : String
  cause : HexError
  deriving DecidableEq

/-- What went wrong, from the outside in. -/
def FieldError.chain (e : FieldError) : List String :=
  [e.field, "expected " ++ toString e.size ++ " hex bytes, got '" ++ e.text ++ "'",
    e.cause.message]

namespace ChainConfig

def readField (size : Nat) (field text : String) : Except FieldError (Octets size) :=
  match Hex.read size text with
  | .ok o => .ok o
  | .error cause => .error ⟨field, size, text, cause⟩

def readEntry (e : ForkEntry) : Except FieldError Fork := do
  let previous ← readField 4 "previous_version" e.previousVersion
  let current ← readField 4 "current_version" e.currentVersion
  pure ⟨previous, current, e.epoch⟩

def readEntries : List ForkEntry → Except FieldError (List Fork)
  | [] => pure []
  | e :: rest => do
    let fork ← readEntry e
    let forks ← readEntries rest
    pure (fork :: forks)

/-- The forks as listed; the first entry that cannot be read is named. -/
def readForks (c : ChainConfig) : Except FieldError (List Fork) := readEntries c.forks

def readRoot (c : ChainConfig) : Except FieldError (Option Root) :=
  match c.genesisRoot with
  | none => pure none
  | some text => do pure (some (← readField 32 "genesis_validators_root" text))

end ChainConfig

end BeaconGossip
