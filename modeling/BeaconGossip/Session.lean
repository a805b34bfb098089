import BeaconGossip.Address.Bind
import BeaconGossip.CommandLine
import BeaconGossip.Config.Decode
import BeaconGossip.Controller.Describe
import BeaconGossip.FileTree
import BeaconGossip.GossipObject
import BeaconGossip.Identity.KeyFile
import BeaconGossip.LogFilter
import BeaconGossip.PeerlessOverlay

namespace BeaconGossip

/-- What a node finds when it is started. -/
structure Session where
  arguments : List String
  files : FileTree
  /-- The environment's wish as to what is logged. -/
  logWish : Option String
  /-- What a new key is made from. -/
  seed : Octets 32

namespace Session

structure Transcript where
  exitCode : Nat
  /-- Whether it ran until it was interrupted. -/
  interrupted : Bool
  log : List LogLine
  /-- What is logged once it has been interrupted. -/
  closingLog : List LogLine
  output : List String
  error : Option String
  files : FileTree

/-- What has happened so far. -/
structure Progress where
  log : List LogLine
  files : FileTree

/-- A part of the run. It fails with the outermost message. -/
abbrev Run (α : Type) := ExceptT String (StateM Progress) α

def log (level : LogLevel) (target message : String) (fields : List (String × String)) :
    Run Unit :=
  modify fun p => { p with log := p.log ++ [⟨level, target, message, fields⟩] }

def orFail {ε α : Type} (message : ε → String) : Except ε α → Run α
  | .ok a => pure a
  | .error e => throw (message e)

def logAll (lines : List LogLine) : Run Unit :=
  modify fun p => { p with log := p.log ++ lines }

/-- The key in the file at the path, or a new one if nothing is there. A place that cannot be looked
at counts as empty, and then nothing can be written there either. -/
def keyAt (path : String) (seed : Octets 32) : Run Identity.KeyPair := do
  let p ← get
  match p.files.read path with
  | .ok content => orFail Identity.KeyError.message (Identity.KeyFile.decode content)
  | .error .isDirectory => throw FileError.isDirectory.message
  | .error _ =>
    let pair := Identity.KeyPair.ofSeed seed
    let files ← orFail FileError.message (p.files.create path (Identity.KeyFile.encode pair))
    set { p with files := files }
    pure pair

structure Plan where
  config : Config
  schedule : Schedule
  fork : Fork
  root : Root

/-- Reads the configuration and finds the current fork. -/
def plan (c : CommandLine) : Run Plan := do
  let path := c.configPath
  let config ← orFail Config.LoadError.message (Config.load path ((← get).files.read path).toOption)
  let root ← orFail FieldError.field config.chain.readRoot
  let forks ← orFail FieldError.field config.chain.readForks
  let schedule := Schedule.ofForks forks root
  let fork ← orFail GossipError.message (schedule.forkAt config.chain.currentEpoch)
  match root with
  | none => throw "chain.genesis_validators_root is required to gossip"
  | some root => pure ⟨config, schedule, fork, root⟩

/-- Offers the counters, takes up the identity and starts the overlay. -/
def connect (config : Config) (seed : Octets 32) : Run Unit := do
  match Bind.error? config.metricsBind with
  | some e => throw (e.message config.metricsBind)
  | none => pure ()
  log .info "forkgossip::metrics" "Metrics endpoint listening" [("bind", config.metricsBind)]
  let pair ←
    match config.network.identityPath with
    | some path => keyAt path seed
    | none => pure (.ofSeed seed)
  log .info "forkgossip::network" "Local peer ID" [("peer_id", Identity.peerId pair)]
  discard <| orFail SpawnError.message
    (PeerlessOverlay.spawn config.gossip.limit false config.network.bootstrap)

def boolText (b : Bool) : String := if b then "true" else "false"

/-- The channels on which the later form of a controller has a request more than the earlier. -/
def requests (earlier later : Controller) : List Channel :=
  (GossipObject.controller later).lanes.filterMap fun (lane, c) =>
    let before := (((GossipObject.controller earlier).channel? lane).map (·.generation)).getD 0
    if before < c.generation then some c else none

def requestLine (c : Channel) : LogLine :=
  ⟨.debug, "forkgossip::channel", "Gossip subscription requested",
    [("topic", c.topic), ("subscribed", boolText c.wanted),
      ("generation", toString c.generation)]⟩

/-- The overlay has done what was wanted. -/
def updateLine (c : Channel) : LogLine :=
  ⟨.debug, "forkgossip::channel", "Gossip topic updated",
    [("topic", c.topic), ("subscribed", boolText c.wanted)]⟩

/-- Asks for the subnets in turn, and tells the channels on which it did. One that is known already
is not logged again. -/
def requestSubnets (c : Controller) (r : Registry) : List UInt64 → Run (Controller × List Channel)
  | [] => pure (c, [])
  | index :: rest => do
    let known := c.managers.any fun m => decide (⟨index⟩ ∈ m.attestation.requested)
    let (later, r) ← orFail GossipError.message (c.requestSubnet index r)
    if !known then
      let enabled := c.managers.any (·.attestation.enabled)
      log .debug "forkgossip::attestation" "Attestation subnet requested"
        [("subnet", toString index.toNat), ("enabled", boolText enabled)]
    let asked := requests c later
    logAll (asked.map requestLine)
    let (c, others) ← requestSubnets later r rest
    pure (c, asked ++ others)

def optionText : Option Epoch → String
  | none => "None"
  | some e => "Some(" ++ toString e.toNat ++ ")"

def activation (c : Controller) : String × String :=
  ("activation_epoch", toString c.fork.epoch.toNat)

/-- Starts gossip and gets to the point where it waits to be interrupted, with all topics joined. -/
def gossip (c : CommandLine) (plan : Plan) : Run Controller := do
  let fresh := Controller.ofFork plan.fork plan.config.gossip
  let (controller, schedule, registry) ← orFail GossipError.message
    (fresh.start plan.root c.optimistic plan.schedule [])
  log .info "forkgossip::controller" "Starting gossip"
    [activation controller, ("fork_digest", (controller.digest.map (·.toString)).getD ""),
      ("optimistic", boolText c.optimistic)]
  let asked := requests fresh controller
  logAll (asked.map requestLine)
  let (controller, others) ← requestSubnets controller registry c.subnets
  logAll ((asked ++ others).map updateLine)
  log .info "gossipd" "Gossip running" [("controller", controller.describe),
    ("next_fork_epoch", optionText (schedule.nextForkEpoch plan.config.chain.currentEpoch))]
  pure controller

def node (c : CommandLine) (seed : Octets 32) : Run Controller := do
  let plan ← plan c
  connect plan.config seed
  gossip c plan

/-- Stops gossip. All topics are asked to be left, and those that are joined then are. -/
def closingLog (c : Controller) : List LogLine :=
  let asked := requests c c.stop
  let joined := ((GossipObject.controller c).lanes.filter (·.2.wanted)).map (·.2.topic)
  ⟨.info, "forkgossip::controller", "Stopping gossip", [activation c]⟩ ::
    asked.map requestLine ++ (asked.filter (·.topic ∈ joined)).map updateLine ++
    [⟨.info, "gossipd", "Gossip stopped", []⟩]

/-- The run of a node that is interrupted once it waits for that. -/
def run (s : Session) : Transcript :=
  match CommandLine.parse s.arguments with
  | .error e => ⟨2, false, [], [], [], some e.message, s.files⟩
  | .ok .help => ⟨0, false, [], [], CommandLine.help, none, s.files⟩
  | .ok .version => ⟨0, false, [], [], CommandLine.version, none, s.files⟩
  | .ok (.run c) =>
    let (result, p) := (node c s.seed).run.run ⟨[], s.files⟩
    let filter := LogFilter.ofWish s.logWish c.quietNetwork
    match result with
    | .ok controller =>
      ⟨0, true, p.log.filter filter.admits, (closingLog controller).filter filter.admits, [], none,
        p.files⟩
    | .error message =>
      ⟨1, false, p.log.filter filter.admits, [], [], some ("Error: " ++ message), p.files⟩

/-- The paths of the files that a run with these arguments may read, as far as they are known from
the content of those before. -/
def wantedFile (arguments : List String) (configContent : Option Bytes) : Option String :=
  match CommandLine.parse arguments with
  | .ok (.run c) =>
    match configContent with
    | none => some c.configPath
    | some content =>
      match Config.load c.configPath (some content) with
      | .ok config => config.network.identityPath
      | .error _ => none
  | _ => none

end Session

end BeaconGossip
