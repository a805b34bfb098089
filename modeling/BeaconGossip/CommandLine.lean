import BeaconGossip.Text.Decimal

namespace BeaconGossip

namespace CommandLine

inductive Flag where
  | quietNetwork
  | optimistic
  | help
  | version
  deriving DecidableEq

inductive ValueOption where
  | config
  | subnet
  deriving DecidableEq

inductive Switch where
  | flag (f : Flag)
  | valued (o : ValueOption)
  deriving DecidableEq

def long? : String → Option Switch
  | "config" => some (.valued .config)
  | "quiet-net" => some (.flag .quietNetwork)
  | "optimistic" => some (.flag .optimistic)
  | "subnet" => some (.valued .subnet)
  | "help" => some (.flag .help)
  | "version" => some (.flag .version)
  | _ => none

def short? : Char → Option Switch
  | 'c' => some (.valued .config)
  | 'h' => some (.flag .help)
  | 'V' => some (.flag .version)
  | _ => none

def Flag.shown : Flag → String
  | .quietNetwork => "--quiet-net"
  | .optimistic => "--optimistic"
  | .help => "--help"
  | .version => "--version"

def ValueOption.shown : ValueOption → String
  | .config => "--config <CONFIG>"
  | .subnet => "--subnet <SUBNETS>"

end CommandLine

inductive CommandError where
  | unexpectedArgument (argument : String)
  | unexpectedValue (value option : String)
  | missingValue (option : String)
  | invalidValue (value option : String) (e : Text.NumberError)
  | repeated (option : String)
  deriving DecidableEq

def CommandError.message : CommandError → String
  | .unexpectedArgument argument => "error: unexpected argument '" ++ argument ++ "' found"
  | .unexpectedValue value option =>
    "error: unexpected value '" ++ value ++ "' for '" ++ option ++ "' found; no more were expected"
  | .missingValue option =>
    "error: a value is required for '" ++ option ++ "' but none was supplied"
  | .invalidValue value option e =>
    "error: invalid value '" ++ value ++ "' for '" ++ option ++ "': " ++ e.message
  | .repeated option => "error: the argument '" ++ option ++ "' cannot be used multiple times"

/-- What a node is told to do when it is started. -/
structure CommandLine where
  config : Option String
  quietNetwork : Bool
  optimistic : Bool
  subnets : List UInt64
  deriving DecidableEq

namespace CommandLine

inductive Request where
  | run (c : CommandLine)
  | help
  | version

def configPath (c : CommandLine) : String := c.config.getD "config.toml"

def empty : CommandLine := ⟨none, false, false, []⟩

/-- An option whose value is not taken up yet, and the value if it has come. -/
abbrev Pending := Option (ValueOption × Option String)

/-- Takes up a value. -/
def setValue (c : CommandLine) (o : ValueOption) (value : String) :
    Except CommandError CommandLine :=
  match o with
  | .config =>
    if c.config.isSome then .error (.repeated o.shown) else .ok { c with config := some value }
  | .subnet =>
    match Text.Decimal.read (UInt64.size - 1) value.toList with
    | .ok n => .ok { c with subnets := c.subnets ++ [UInt64.ofNat n] }
    | .error e => .error (.invalidValue value o.shown e)

def resolve (c : CommandLine) : Pending → Except CommandError CommandLine
  | none => .ok c
  | some (o, none) => .error (.missingValue o.shown)
  | some (o, some value) => c.setValue o value

/-- Sets a flag, or ends the reading with a request for information. -/
def setFlag (c : CommandLine) (f : Flag) : Except CommandError (CommandLine ⊕ Request) :=
  match f with
  | .help => .ok (.inr .help)
  | .version => .ok (.inr .version)
  | .quietNetwork =>
    if c.quietNetwork then .error (.repeated f.shown)
    else .ok (.inl { c with quietNetwork := true })
  | .optimistic =>
    if c.optimistic then .error (.repeated f.shown)
    else .ok (.inl { c with optimistic := true })

/-- What is known after an argument, or the request that it has settled. -/
abbrev Progress := Except CommandError ((CommandLine × Pending) ⊕ Request)

def readFlag (c : CommandLine) (pending : Pending) (f : Flag) : Progress := do
  let c ← c.resolve pending
  match ← c.setFlag f with
  | .inl c => pure (.inl (c, none))
  | .inr r => pure (.inr r)

def readOption (c : CommandLine) (pending : Pending) (o : ValueOption)
    (attached : Option String) : Progress := do
  let c ← c.resolve pending
  match attached with
  | none => pure (.inl (c, some (o, none)))
  | some value => pure (.inl (← c.setValue o value, none))

/-- Splits at the first equals sign. -/
def splitValue (text : List Char) : String × Option String :=
  match text.dropWhile (· ≠ '=') with
  | [] => (String.ofList text, none)
  | _ :: value => (String.ofList (text.takeWhile (· ≠ '=')), some (String.ofList value))

def readLong (c : CommandLine) (pending : Pending) (text : List Char) : Progress :=
  let (name, attached) := splitValue text
  match long? name, attached with
  | none, _ => .error (.unexpectedArgument ("--" ++ name))
  | some (.flag f), some value => .error (.unexpectedValue value f.shown)
  | some (.flag f), none => c.readFlag pending f
  | some (.valued o), attached => c.readOption pending o attached

/-- Short flags may be joined; what follows a short option is its value. -/
def readShort (c : CommandLine) (pending : Pending) : List Char → Progress
  | [] => .ok (.inl (c, pending))
  | ch :: rest =>
    match short? ch with
    | none => .error (.unexpectedArgument (String.ofList ['-', ch]))
    | some (.valued o) =>
      c.readOption pending o <|
        match rest with
        | [] => none
        | '=' :: value => some (String.ofList value)
        | value => some (String.ofList value)
    | some (.flag f) =>
      match c.readFlag pending f with
      | .ok (.inl (c, pending)) => readShort c pending rest
      | r => r

def readPlain (c : CommandLine) (pending : Pending) (argument : String) : Progress :=
  match pending with
  | some (o, none) => .ok (.inl (c, some (o, some argument)))
  | _ => .error (.unexpectedArgument argument)

def readArgument (c : CommandLine) (pending : Pending) (argument : String) : Progress :=
  match argument.toList with
  | '-' :: '-' :: text => c.readLong pending text
  | ['-'] => c.readPlain pending argument
  | '-' :: text => c.readShort pending text
  | _ => c.readPlain pending argument

def readAll (c : CommandLine) (pending : Pending) : List String → Except CommandError Request
  | [] => do pure (.run (← c.resolve pending))
  -- After a double dash only plain arguments may follow, and there are none.
  | ["--"] => do pure (.run (← c.resolve pending))
  | "--" :: argument :: _ => .error (.unexpectedArgument argument)
  | argument :: rest =>
    match c.readArgument pending argument with
    | .error e => .error e
    | .ok (.inr r) => .ok r
    | .ok (.inl (c, pending)) => readAll c pending rest

def parse (arguments : List String) : Except CommandError Request := empty.readAll none arguments

def help : List String :=
  ["Fork-scoped beacon gossip node", "", "Usage: gossipd [OPTIONS]", "", "Options:",
    "  -c, --config <CONFIG>   [default: config.toml]",
    "      --quiet-net         Suppress routine network gossip logs",
    "      --optimistic        Start as if the head were optimistic",
    "      --subnet <SUBNETS>  Attestation subnets to join at startup",
    "  -h, --help              Print help",
    "  -V, --version           Print version"]

def version : List String := ["forkgossip 0.1.0"]

end CommandLine

end BeaconGossip
