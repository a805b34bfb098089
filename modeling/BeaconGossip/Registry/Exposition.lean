import BeaconGossip.Registry

namespace BeaconGossip.Registry

namespace Family

def all : List Family :=
  [published, publishFailures, subscribeFailures, inbound, publishRequests, attestationSubnets]

/-- The name without the part that all families share. -/
def shortName : Family → String
  | published => "published_total"
  | publishFailures => "publish_failures_total"
  | subscribeFailures => "subscribe_failures_total"
  | inbound => "inbound_total"
  | publishRequests => "publish_requests_total"
  | attestationSubnets => "attestation_subnets"

def name (f : Family) : String := "forkgossip_gossip_" ++ f.shortName

def help : Family → String
  | published => "Messages published to gossip"
  | publishFailures => "Gossip publishes the network refused"
  | subscribeFailures => "Topic subscribe/unsubscribe errors"
  | inbound => "Inbound gossip messages by validation result"
  | publishRequests => "Local messages offered to a topic manager"
  | attestationSubnets => "Attestation subnets currently requested"

/-- What may go down is a gauge. -/
def kind : Family → String
  | attestationSubnets => "gauge"
  | _ => "counter"

def labelNames : Family → List String
  | inbound => ["class", "result"]
  | attestationSubnets => ["fork_digest"]
  | _ => ["class"]

end Family

/-- Short name and label values. -/
def Series.shortName (s : Series) : String :=
  s.family.shortName ++ "\x7b" ++ String.intercalate "," s.labels ++ "\x7d"

/-- Backslashes, line ends and double quotes of a label value are escaped. -/
def escapeLabel (value : String) : String :=
  String.ofList <| value.toList.flatMap fun c =>
    match c with
    | '\\' => ['\\', '\\']
    | '\n' => ['\\', 'n']
    | '"' => ['\\', '"']
    | c => [c]

def labelPair (name value : String) : String := name ++ "=\"" ++ escapeLabel value ++ "\""

def Series.line (s : Series) (value : Int) : String :=
  s.family.name ++ "\x7b" ++
    String.intercalate "," (List.zipWith labelPair s.family.labelNames s.labels) ++ "\x7d " ++
    toString value ++ "\n"

/-- Series in the order of their label values. -/
def inLabelOrder (r : Registry) : Registry :=
  List.mergeSort r fun a b => decide (¬ b.1.labels < a.1.labels)

def familyText (r : Registry) (f : Family) : String :=
  match inLabelOrder (r.filter (·.1.family = f)) with
  | [] => ""
  | series =>
    "# HELP " ++ f.name ++ " " ++ f.help ++ "\n# TYPE " ++ f.name ++ " " ++ f.kind ++ "\n" ++
      String.join (series.map fun (s, v) => s.line v)

/-- Families without series are left out. -/
def exposition (r : Registry) : String :=
  String.join ((Family.all.mergeSort fun f g => decide (¬ g.name < f.name)).map (familyText r))

inductive RegistrationError where
  | duplicate
  deriving DecidableEq

def RegistrationError.message : RegistrationError → String
  | .duplicate => "Duplicate metrics collector registration attempted"

/-- Adds the families to the names taken so far. -/
def register (taken : List String) : List Family → Except RegistrationError (List String)
  | [] => .ok taken
  | f :: rest =>
    if f.name ∈ taken then .error .duplicate else register (f.name :: taken) rest

end BeaconGossip.Registry
