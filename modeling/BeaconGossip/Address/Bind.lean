import BeaconGossip.Address.HostName
import BeaconGossip.Address.Ip

namespace BeaconGossip

inductive BindError where
  | invalidAddress
  | invalidPort
  | nulInHost
  | unknownHost
  /-- A well formed name, but there is no one to ask for it. -/
  | lookupFailed
  | notLocal
  /-- A group of machines, or an address of a link without saying which link. -/
  | notBindable
  | noSuchLink
  deriving DecidableEq

namespace BindError

def reason : BindError → String
  | invalidAddress => "invalid socket address"
  | invalidPort => "invalid port value"
  | nulInHost => "file name contained an unexpected NUL byte"
  | unknownHost => "failed to lookup address information: Name or service not known"
  | lookupFailed => "failed to lookup address information: Temporary failure in name resolution"
  | notLocal => "Cannot assign requested address (os error 99)"
  | notBindable => "Invalid argument (os error 22)"
  | noSuchLink => "No such device (os error 19)"

def message (e : BindError) (address : String) : String :=
  "could not start metrics server on " ++ address ++ ": " ++ e.reason

end BindError

namespace Bind

/-- What a machine is called by. -/
inductive Host where
  | v4
  /-- Eight groups, and the number of a link; zero names none. -/
  | v6 (groups : List Nat) (link : Nat)
  deriving DecidableEq

/-- The link by which the machine reaches itself; it has no other. -/
def ownLink : Nat := 1

def Host.error? : Host → Option BindError
  | v4 => none
  | v6 groups link =>
    match groups with
    | [0, 0, 0, 0, 0, 0, 0, 0] => none
    | [0, 0, 0, 0, 0, 0xffff, _, _] => none
    | first :: _ =>
      if 0xff00 ≤ first then some .notBindable
      else if 0xfe80 ≤ first ∧ first ≤ 0xfebf then
        if link = 0 then some .notBindable
        else if link = ownLink then some .notLocal
        else some .noSuchLink
      else some .notLocal
    | [] => some .notLocal

/-- A colon and the number of a socket at the end of a text. -/
def isPortEnd (text : List Char) : Bool :=
  match text with
  | ':' :: port => port.head? ≠ some '+' && (Text.Decimal.read (UInt16.size - 1) port).isOk
  | _ => false

/-- The number of a link behind a percent sign, if there is one. -/
def takeLink (text : List Char) : Nat × List Char :=
  match text with
  | '%' :: rest =>
    let digits := rest.takeWhile Toml.isDigit
    match Text.Decimal.read (UInt32.size - 1) digits with
    | .ok n => (n, rest.drop digits.length)
    | .error _ => (0, text)
  | _ => (0, text)

/-- An address in figures with the number of a socket; one of the newer kind is in brackets. -/
def figures? (text : List Char) : Option Host :=
  match text with
  | '[' :: rest =>
    match Ip.grouped rest with
    | none => none
    | some (groups, rest) =>
      let (link, rest) := takeLink rest
      match rest with
      | ']' :: rest => if isPortEnd rest then some (.v6 groups link) else none
      | _ => none
  | text =>
    match Ip.dotted text with
    | some (_, rest) => if isPortEnd rest then some .v4 else none
    | none => none

/-- What stands before and after the last colon. -/
def splitPort (text : List Char) : Option (List Char × List Char) :=
  let socket := (text.reverse.takeWhile (· ≠ ':')).reverse
  if socket.length = text.length then none
  else some (text.take (text.length - socket.length - 1), socket)

/-- A part of an address in loose form: decimal, octal behind a zero, hexadecimal behind `0x`. -/
def loosePart? (text : List Char) : Option Nat :=
  let number (base : Nat) (isDigit : Char → Bool) (digits : List Char) : Option Nat :=
    if !digits.isEmpty && digits.all isDigit then some (Toml.ofDigits base digits) else none
  match text with
  | '0' :: 'x' :: digits => number 16 Toml.isHexDigit digits
  | '0' :: 'X' :: digits => number 16 Toml.isHexDigit digits
  | '0' :: digits => number 8 (fun c => '0' ≤ c && c ≤ '7') ('0' :: digits)
  | digits => number 10 Toml.isDigit digits

/-- Up to four parts with dots between them. The last takes all bits that those before, of eight
bits each, leave of 32. -/
def isLooseV4 (text : List Char) : Bool :=
  match (Text.segments '.' text).mapM loosePart? with
  | none => false
  | some parts =>
    let front := parts.dropLast
    front.length ≤ 3 && front.all (· ≤ 255) &&
      (parts.getLast?.getD 0 < Nat.pow 256 (4 - front.length))

/-- The link named behind the first percent sign. A link goes by its number, and on an address that
is valid on one link only also by its name. -/
def link? (groups : List Nat) (text : List Char) : Option Nat :=
  let first := groups.headD 0
  let isOfLink := (0xfe80 ≤ first && first ≤ 0xfebf) ||
    (0xff00 ≤ first && (first % 16 = 1 || first % 16 = 2))
  if isOfLink && text = "lo".toList then some ownLink
  else if text.head? = some '+' then none
  else
    match Text.Decimal.read (UInt32.size - 1) text with
    | .ok n => some n
    | .error _ => none

/-- An address of the newer kind without brackets. -/
def plainV6? (text : List Char) : Option Host :=
  let address := text.takeWhile (· ≠ '%')
  match Ip.v6? address, text.drop address.length with
  | some groups, [] => some (.v6 groups 0)
  | some groups, _ :: link => (link? groups link).map (.v6 groups)
  | none, _ => none

def localName : String := "localhost"

/-- The machine that is called so. Of names only that of the machine itself is known. -/
def hostOf (text : List Char) : Except BindError Host :=
  if '\x00' ∈ text then .error .nulInHost
  else if isLooseV4 text then .ok .v4
  else
    match plainV6? text with
    | some host => .ok host
    | none =>
      if text.map Char.toLower = localName.toList then .ok .v4
      else if HostName.isValid text then .error .lookupFailed
      else .error .unknownHost

def hostAt (text : List Char) : Except BindError Host :=
  match figures? text with
  | some host => .ok host
  | none =>
    match splitPort text with
    | none => .error .invalidAddress
    | some (host, socket) =>
      match Text.Decimal.read (UInt16.size - 1) socket with
      | .error _ => .error .invalidPort
      | .ok _ => hostOf host

/-- Why the address cannot be bound, if so. -/
def error? (address : String) : Option BindError :=
  match hostAt address.toList with
  | .error e => some e
  | .ok host => host.error?

/-- What a request for the counters ends with on a machine without a route to itself. -/
def unreachable : String := "Network is unreachable (os error 101)"

end Bind

end BeaconGossip
