import BeaconGossip.Config
import BeaconGossip.Toml.Parser

namespace BeaconGossip

namespace Toml

/-- The value of each field, as far as it is given. -/
def fields (names : List String) : Toml → Option (List (Option Toml))
  | .table entries => some (names.map fun name => entries.lookup name)
  | .array items => some ((List.range names.length).map (items[·]?))
  | .time => some (names.map fun _ => none)
  | _ => none

def text? : Toml → Option String
  | .string s => some s
  | _ => none

/-- A whole number up to the given one. -/
def natural? (max : Nat) : Toml → Option Nat
  | .integer i => if 0 ≤ i ∧ i ≤ max then some i.toNat else none
  | _ => none

def word? (t : Toml) : Option UInt64 := (t.natural? (UInt64.size - 1)).map UInt64.ofNat

def list? {α : Type} (item : Toml → Option α) : Toml → Option (List α)
  | .array items => items.mapM item
  | _ => none

/-- A field that must be given. -/
def required {α : Type} (read : Toml → Option α) (field : Option Toml) : Option α := field.bind read

def withDefault {α : Type} (standard : α) (read : Toml → Option α) : Option Toml → Option α
  | none => some standard
  | some t => read t

def optional {α : Type} (read : Toml → Option α) : Option Toml → Option (Option α)
  | none => some none
  | some t => (read t).map some

/-- An encoding by name, or as a table of its name and nothing else. -/
def encoding? : Toml → Option Encoding
  | .string name => Encoding.ofName? name
  | .table [(name, .table [])] => Encoding.ofName? name
  | .table [(name, .array [])] => Encoding.ofName? name
  | _ => none

end Toml

namespace NetworkConfig

def ofToml? (t : Toml) : Option NetworkConfig := do
  match ← t.fields ["listen_port", "bootstrap", "identity_path"] with
  | [listen, bootstrap, identity] =>
    pure {
      listenPort := UInt16.ofNat (← Toml.required (Toml.natural? (UInt16.size - 1)) listen)
      bootstrap := ← Toml.withDefault [] (Toml.list? Toml.text?) bootstrap
      identityPath := ← Toml.optional Toml.text? identity }
  | _ => none

end NetworkConfig

namespace Settings

def ofToml? (t : Toml) : Option Settings := do
  match ← t.fields
      ["topic_prefix", "encoding", "attestation_subnet_count", "max_message_size",
        "debug_dump_dir"] with
  | [space, encoding, count, size, directory] =>
    pure {
      space := ← Toml.withDefault standard.space Toml.text? space
      encoding := ← Toml.withDefault standard.encoding Toml.encoding? encoding
      subnetCount := ← Toml.withDefault standard.subnetCount Toml.word? count
      maxMessageSize := ← Toml.withDefault standard.maxMessageSize Toml.word? size
      dumpDirectory := ← Toml.optional Toml.text? directory }
  | _ => none

end Settings

namespace ForkEntry

def ofToml? (t : Toml) : Option ForkEntry := do
  match ← t.fields ["previous_version", "current_version", "epoch"] with
  | [previous, current, epoch] =>
    pure {
      previousVersion := ← Toml.required Toml.text? previous
      currentVersion := ← Toml.required Toml.text? current
      epoch := ← Toml.required Toml.word? epoch }
  | _ => none

end ForkEntry

namespace ChainConfig

def ofToml? (t : Toml) : Option ChainConfig := do
  match ← t.fields ["genesis_validators_root", "current_epoch", "forks"] with
  | [root, epoch, forks] =>
    pure {
      genesisRoot := ← Toml.optional Toml.text? root
      currentEpoch := ← Toml.withDefault 0 Toml.word? epoch
      forks := ← Toml.required (Toml.list? ForkEntry.ofToml?) forks }
  | _ => none

end ChainConfig

namespace Config

def bindOfToml? (t : Toml) : Option String := do
  match ← t.fields ["bind"] with
  | [bind] => Toml.withDefault standardBind Toml.text? bind
  | _ => none

def ofToml? (t : Toml) : Option Config := do
  match ← t.fields ["net", "gossip", "chain", "metrics"] with
  | [network, gossip, chain, metrics] =>
    pure {
      network := ← Toml.required NetworkConfig.ofToml? network
      gossip := ← Toml.withDefault .standard Settings.ofToml? gossip
      chain := ← Toml.required ChainConfig.ofToml? chain
      metricsBind := ← Toml.withDefault standardBind bindOfToml? metrics }
  | _ => none

inductive LoadError where
  | unreadable (path : String)
  | malformed
  deriving DecidableEq

def LoadError.message : LoadError → String
  | .unreadable path => "couldn't read config file " ++ path
  | .malformed => "invalid TOML in config file"

def read (document : String) : Except LoadError Config :=
  match (Toml.parse? document).bind ofToml? with
  | some config => .ok config
  | none => .error .malformed

/-- The text that the bytes stand for, if they are well-formed UTF-8. -/
def text? (content : Bytes) : Option String := String.fromUTF8? ⟨content.toArray⟩

/-- Reads a file with the given content; there is none if the file does not exist. -/
def load (path : String) (content : Option Bytes) : Except LoadError Config :=
  match content.bind text? with
  | some document => read document
  | none => .error (.unreadable path)

end Config

end BeaconGossip
