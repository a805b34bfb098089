import BeaconGossip.Address.Ip
import BeaconGossip.Hex
import BeaconGossip.Multibase
import BeaconGossip.Multihash
import BeaconGossip.Text.UpperCase
import BeaconGossip.Topic.Parser

namespace BeaconGossip.Text.Percent

def decode : Bytes → Bytes
  | [] => []
  | b :: hi :: lo :: rest =>
    if b = '%'.toUInt8 then
      match Hex.digit? hi, Hex.digit? lo with
      | some h, some l => UInt8.ofNat (16 * h + l) :: decode rest
      | _, _ => b :: decode (hi :: lo :: rest)
    else b :: decode (hi :: lo :: rest)
  | b :: rest => b :: decode rest

end BeaconGossip.Text.Percent

namespace BeaconGossip

inductive MultiaddrError where
  /-- Does not start with a slash, or an argument of a hidden service is malformed. -/
  | invalid
  /-- The argument of a protocol is missing, or has a length that none can have. -/
  | missingArgument
  | unknownProtocol (name : String)
  | invalidV4
  | invalidV6
  | invalidNumber (e : Text.NumberError)
  | invalidText (e : Text.Utf8.Fault)
  | invalidBase (e : MultibaseError)
  | invalidHash (e : MultihashError)
  /-- The name of a peer is no hash at all. -/
  | invalidPeer
  | unsupportedHash (code : Nat)
  deriving DecidableEq

namespace MultiaddrError

def message : MultiaddrError → String
  | invalid => "invalid multiaddr"
  | missingArgument => "invalid protocol string"
  | unknownProtocol name => "unknown protocol string: " ++ name
  | invalidV4 => "failed to parse: invalid IPv4 address syntax"
  | invalidV6 => "failed to parse: invalid IPv6 address syntax"
  | invalidNumber e => "failed to parse: " ++ e.message
  | invalidText e => "failed to parse: " ++ e.message
  | invalidBase e => "failed to parse: " ++ e.message
  | invalidHash e => "failed to parse: " ++ e.message
  | invalidPeer => "failed to parse: invalid multihash"
  | unsupportedHash code => "failed to parse: unsupported multihash code '" ++ toString code ++ "'"

end MultiaddrError

namespace Multiaddr

/-- What a protocol takes. -/
inductive Argument where
  | none
  | name
  /-- A text in which any byte may be written behind a percent sign. -/
  | path
  | v4
  | v6
  | number (max : Nat)
  | peer
  /-- A hidden service: an address of so many bytes, and the number of a socket. -/
  | service (length : Nat)
  /-- A destination of another hidden network, in full or by its hash. -/
  | destination
  | destinationHash
  | certificate

def plainProtocols : List String :=
  ["http", "https", "noise", "p2p-circuit", "p2p-stardust", "p2p-webrtc-direct",
    "p2p-webrtc-star", "p2p-websocket-star", "quic", "quic-v1", "tls", "udt", "utp", "webrtc",
    "webrtc-direct", "webtransport", "ws", "wss"]

def namedProtocols : List String := ["dns", "dns4", "dns6", "dnsaddr", "ip6zone", "sni", "unix"]

def pathProtocols : List String := ["http-path", "x-parity-ws", "x-parity-wss"]

def portProtocols : List String := ["dccp", "sctp", "tcp", "udp"]

def peerProtocols : List String := ["ipfs", "p2p"]

def argument? (protocol : String) : Option Argument :=
  if protocol ∈ plainProtocols then some .none
  else if protocol ∈ namedProtocols then some .name
  else if protocol ∈ pathProtocols then some .path
  else if protocol ∈ portProtocols then some (.number (UInt16.size - 1))
  else if protocol ∈ peerProtocols then some .peer
  else if protocol = "ip4" then some .v4
  else if protocol = "ip6" then some .v6
  else if protocol = "ipcidr" then some (.number (UInt8.size - 1))
  else if protocol = "memory" then some (.number (UInt64.size - 1))
  else if protocol = "onion" then some (.service 16)
  else if protocol = "onion3" then some (.service 56)
  else if protocol = "garlic64" then some .destination
  else if protocol = "garlic32" then some .destinationHash
  else if protocol = "certhash" then some .certificate
  else none

def byteCount (text : List Char) : Nat := (Text.Utf8.encode text).length

def checkPath (text : List Char) : Except MultiaddrError Unit :=
  match Text.Utf8.fault? (Text.Percent.decode (Text.Utf8.encode text)) with
  | some e => .error (.invalidText e)
  | none => .ok ()

def checkNumber (max : Nat) (text : List Char) : Except MultiaddrError Nat :=
  match Text.Decimal.read max text with
  | .ok n => .ok n
  | .error e => .error (.invalidNumber e)

/-- The code of a hash of 256 bits. -/
def hashCode : Nat := 0x12

/-- The code of bytes that stand for themselves, and how many there may be. -/
def identityCode : Nat := 0

def identityLimit : Nat := 42

/-- A peer is named by a 256-bit hash of its key, or by a short key itself. -/
def checkPeer (text : List Char) : Except MultiaddrError Unit :=
  match Numeral.base58.decode? text with
  | none => .error (.invalidBase .invalid)
  | some bytes =>
    match Multihash.decode bytes with
    | .error _ => .error .invalidPeer
    | .ok hash =>
      if hash.code = hashCode then .ok ()
      else if hash.code = identityCode ∧ hash.digest.length ≤ identityLimit then .ok ()
      else .error (.unsupportedHash hash.code)

/-- Checks name and socket of a service in upper case. The length of the name is looked at first,
then the socket, then the rest. -/
def checkService (length : Nat) (text : List Char) : Except MultiaddrError Unit := do
  match Text.segments ':' (Text.upper text) with
  | name :: socket :: more =>
    if byteCount name ≠ length then throw .invalid
    let n ← checkNumber (UInt16.size - 1) socket
    if n ≠ 0 && more.isEmpty && (Multibase.base32Capital.decode? name).isSome then pure ()
    else throw .invalid
  | _ => throw .invalid

def checkBits (base : BitText) (text : List Char) : Except MultiaddrError Unit :=
  if (base.decode? text).isSome then .ok () else .error (.invalidBase .invalid)

/-- In addresses two symbols of the alphabet are written as others. -/
def destinationSymbol : Char → Char
  | '-' => '+'
  | '~' => '/'
  | c => c

def checkDestination (text : List Char) : Except MultiaddrError Unit :=
  if 516 ≤ byteCount text ∧ byteCount text ≤ 616 then
    checkBits Multibase.base64 (text.map destinationSymbol)
  else .error .missingArgument

def checkDestinationHash (text : List Char) : Except MultiaddrError Unit :=
  if byteCount text = 52 ∨ 55 ≤ byteCount text then checkBits Multibase.base32 text
  else .error .missingArgument

/-- A certificate is named by any hash in any alphabet. -/
def checkCertificate (text : List Char) : Except MultiaddrError Unit :=
  match Multibase.decode text with
  | .error e => .error (.invalidBase e)
  | .ok bytes =>
    match Multihash.decode bytes with
    | .error e => .error (.invalidHash e)
    | .ok _ => .ok ()

def Argument.check (argument : Argument) (text : List Char) : Except MultiaddrError Unit :=
  match argument with
  | .none | .name => .ok ()
  | .path => checkPath text
  | .v4 => if Ip.isV4 text then .ok () else .error .invalidV4
  | .v6 => if Ip.isV6 text then .ok () else .error .invalidV6
  | .number max => (checkNumber max text).map fun _ => ()
  | .peer => checkPeer text
  | .service length => checkService length text
  | .destination => checkDestination text
  | .destinationHash => checkDestinationHash text
  | .certificate => checkCertificate text

/-- Checks protocol after protocol. -/
def checkParts : List (List Char) → Except MultiaddrError Unit
  | [] => .ok ()
  | protocol :: rest =>
    match argument? (String.ofList protocol), rest with
    | none, _ => .error (.unknownProtocol (String.ofList protocol))
    | some .none, rest => checkParts rest
    | some _, [] => .error .missingArgument
    | some argument, text :: rest =>
      match argument.check text with
      | .error e => .error e
      | .ok () => checkParts rest

/-- Whether the text is an address of a peer; the empty text is one, of no protocol. -/
def check (text : String) : Except MultiaddrError Unit :=
  match Text.segments '/' text.toList with
  | [] :: parts => checkParts parts
  | _ => .error .invalid

end Multiaddr

end BeaconGossip
