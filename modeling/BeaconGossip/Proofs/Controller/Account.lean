import BeaconGossip.Proofs.Controller.Mode
import BeaconGossip.Proofs.Node.Run

namespace BeaconGossip

/-- The digest that a start goes by, if there is one, with the schedule afterwards: the digest of the
first start, else that of the schedule. -/
def Schedule.startDigest (s : Schedule) (first : Option ForkDigest) (epoch : Epoch) :
    Option (ForkDigest × Schedule) :=
  match first with
  | some digest => some (digest, s)
  | none =>
    match s.digestAt epoch with
    | (.ok digest, s) => some (digest, s)
    | (.error _, _) => none

/-- Whether the program itself does it. All other events are the overlay's, the peers' and the
tasks', or add objects that nothing is asked of. -/
def Node.Event.isOperation : Node.Event → Bool
  | .act .. | .addAttestation _ | .mark _ | .setGenesisRoot _ => true
  | _ => false

/-- Not an act on another object. -/
def Node.Event.Own (i : Nat) : Node.Event → Prop
  | .act j _ => j = i
  | _ => True

namespace Controller

open Node (Act Event)

structure Account where
  fork : Fork
  settings : Settings
  mode : Mode
  /-- In the names of the topics; there is none before the first start. -/
  digest : Option ForkDigest
  schedule : Schedule
  attestations : List GossipAttestation

namespace Account

def opened (fork : Fork) (settings : Settings) (node : Node) : Account where
  fork := fork
  settings := settings
  mode := .stopped
  digest := none
  schedule := node.schedule
  attestations := node.attestations

/-- A payload for a topic of the fork. -/
def emit (a : Account) (kind : TopicKind) (payload : Bytes) : List (String × Bytes) :=
  match a.digest with
  | none => []
  | some digest =>
    if a.settings.limit < payload.length then []
    else [((a.settings.namer digest).topic kind, payload)]

/-- Attestations are not published as messages. -/
def ofMessage (a : Account) (message : Message) : List (String × Bytes) :=
  match message.cls with
  | .attestation => []
  | .block | .aggregate =>
    if a.mode = .stopped then [] else a.emit (.ofClass message.cls) message.encode
  | .voluntaryExit | .proposerSlashing | .attesterSlashing =>
    if a.mode = .full then a.emit (.ofClass message.cls) message.encode else []

def ofAttestation (a : Account) (att : GossipAttestation) : List (String × Bytes) :=
  if att.gossiped then []
  else
    match att.aggregate with
    | none =>
      if a.mode = .full then
        a.emit (.subnet (att.subnet a.settings.subnetCount))
          (Message.attestation att.attestation).encode
      else []
    | some aggregate =>
      if a.mode = .stopped then []
      else a.emit (.ofClass .aggregate) (Message.aggregate aggregate).encode

/-- Whether the attestation is taken up, so that it is marked from then on. -/
def takes (a : Account) (att : GossipAttestation) : Bool :=
  match att.aggregate with
  | none => a.mode = .full
  | some _ => a.mode ≠ .stopped

def ofAct (a : Account) : Act → List (String × Bytes)
  | .publish message => a.ofMessage message
  | .publishAttestation n => ((a.attestations[n]?).map a.ofAttestation).getD []
  | _ => []

/-- A start that finds no digest fails. -/
def start (a : Account) (head : Bool) : Account :=
  match a.schedule.startDigest a.digest a.fork.epoch with
  | none => a
  | some (digest, schedule) =>
    { a with mode := a.mode.start head, digest := some digest, schedule := schedule }

def act (a : Account) : Act → Account
  | .start _ head => a.start head
  | .stop => { a with mode := .stopped }
  | .stopOptimistic => { a with mode := a.mode.stopOptimistic }
  | .publishAttestation n =>
    { a with
      attestations := a.attestations.modify n fun att =>
        if a.takes att then { att with gossiped := true } else att }
  | _ => a

def ofEvent (i : Nat) (a : Account) : Event → List (String × Bytes)
  | .act j act => if j = i then a.ofAct act else []
  | _ => []

def after (i : Nat) (a : Account) : Event → Account
  | .act j act => if j = i then a.act act else a
  | .addAttestation att => { a with attestations := a.attestations ++ [att] }
  | .mark n =>
    { a with attestations := a.attestations.modify n fun att => { att with gossiped := true } }
  | .setGenesisRoot root => { a with schedule := a.schedule.setGenesisRoot root }
  | _ => a

def run (i : Nat) (a : Account) (es : List Event) : Account := es.foldl (after i) a

/-- The outputs of the events, one after the other. -/
def trace (i : Nat) (a : Account) : List Event → List (String × Bytes)
  | [] => []
  | e :: es => a.ofEvent i e ++ (a.after i e).trace i es

variable {i : Nat} {a : Account} {e : Event}

theorem run_append (es : List Event) : a.run i (es ++ [e]) = (a.run i es).after i e := by
  rw [run, List.foldl_append]
  rfl

theorem trace_append (es : List Event) :
    a.trace i (es ++ [e]) = a.trace i es ++ (a.run i es).ofEvent i e := by
  induction es generalizing a with
  | nil => exact List.append_nil _
  | cons e' es ih =>
    rw [List.cons_append, trace, ih, trace, List.append_assoc]
    rfl

theorem after_of_not_operation (he : e.isOperation = false) : a.after i e = a := by
  cases e with
  | act => cases he
  | addAttestation => cases he
  | mark => cases he
  | setGenesisRoot => cases he
  | _ => rfl

theorem ofEvent_of_not_operation (he : e.isOperation = false) : a.ofEvent i e = [] := by
  cases e with
  | act => cases he
  | _ => rfl

theorem trace_filter (es : List Event) : a.trace i (es.filter (·.isOperation)) = a.trace i es := by
  induction es generalizing a with
  | nil => rfl
  | cons e es ih =>
    cases he : e.isOperation with
    | true => rw [List.filter_cons_of_pos he, trace, trace, ih]
    | false =>
      rw [List.filter_cons_of_neg (by simp [he]), trace, after_of_not_operation he,
        ofEvent_of_not_operation he, ih]
      rfl

theorem act_fixed (act : Act) : (a.act act).fork = a.fork ∧ (a.act act).settings = a.settings := by
  unfold Account.act
  split
  · unfold start
    split <;> exact ⟨rfl, rfl⟩
  all_goals exact ⟨rfl, rfl⟩

end Account

end Controller

end BeaconGossip
