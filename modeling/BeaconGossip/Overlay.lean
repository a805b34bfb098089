import BeaconGossip.Error
import BeaconGossip.MessageClass
import BeaconGossip.Octets
import BeaconGossip.Subnet

namespace BeaconGossip

/-- The receiving end of a topic: the class of its payloads, and its subnet if it has one. -/
structure Endpoint where
  cls : MessageClass
  topic : String
  subnet : Option SubnetId
  deriving DecidableEq

namespace Overlay

inductive Action where
  | join (endpoint : Endpoint)
  | leave
  | publish (payload : Bytes)
  deriving DecidableEq

inductive ActionKind where
  | join
  | leave
  | publish
  deriving DecidableEq

def Action.kind : Action → ActionKind
  | join _ => .join
  | leave => .leave
  | publish _ => .publish

end Overlay

/-- The call that brings about the wanted state. -/
def Endpoint.switch (e : Endpoint) (wanted : Bool) : Overlay.Action :=
  if wanted then .join e else .leave

namespace Overlay

/-- How a call ends. -/
inductive Reply where
  | ok
  | refused (e : GossipError)
  /-- The task that made the call is torn down with it. -/
  | died
  deriving DecidableEq

/-- What is told to whoever waits for the call. Of a task that was torn down nothing more is heard
than that everything is being shut down. -/
def Reply.result : Reply → Except GossipError Unit
  | ok => .ok ()
  | refused e => .error e
  | died => .error .shutdown

/-- How calls are to end, whichever topic they are on. -/
inductive Answer where
  | reply (r : Reply)
  /-- Refused with an error that names the call's own topic. -/
  | transport (reason : String)
  deriving DecidableEq

def Answer.on (topic : String) : Answer → Reply
  | reply r => r
  | transport reason => .refused (.transport topic reason)

structure Call where
  topic : String
  action : Action
  /-- None as long as the call is held. -/
  reply : Option Reply
  deriving DecidableEq

/-- Names a call: the calls of each topic are numbered from zero. -/
structure Ticket where
  topic : String
  number : Nat
  deriving DecidableEq

inductive Behaviour where
  | answer (a : Answer)
  | hold
  deriving DecidableEq

/-- How calls of one kind are treated, on one topic or in general. No task that joins or leaves is
ever torn down. -/
structure Rule where
  kind : ActionKind
  topic : Option String
  behaviour : Behaviour
  spares : behaviour = .answer (.reply .died) → kind = .publish
  deriving DecidableEq

end Overlay

/-- The peer overlay as a node sees it, with all calls in the order in which they were made. A join
or a leave takes effect when it is answered with success, and not otherwise. -/
structure Overlay where
  /-- The latest comes first. -/
  rules : List Overlay.Rule
  live : List (String × Endpoint)
  calls : List Overlay.Call

namespace Overlay

def idle : Overlay := ⟨[], [], []⟩

def rule? (o : Overlay) (kind : ActionKind) (topic : Option String) : Option Behaviour :=
  (o.rules.find? fun r => r.kind = kind ∧ r.topic = topic).map (·.behaviour)

/-- A rule for the topic beats the general one; without either, calls succeed. -/
def behaviour (o : Overlay) (kind : ActionKind) (topic : String) : Behaviour :=
  ((o.rule? kind (some topic)).or (o.rule? kind none)).getD (.answer (.reply .ok))

def setRule (o : Overlay) (rule : Rule) : Overlay := { o with rules := rule :: o.rules }

def endpoint? (o : Overlay) (topic : String) : Option Endpoint := o.live.lookup topic

/-- What an answered call does to the live endpoints. -/
def afterReply (live : List (String × Endpoint)) (c : Call) : List (String × Endpoint) :=
  match c.reply, c.action with
  | some .ok, .join endpoint => (c.topic, endpoint) :: live.filter (·.1 ≠ c.topic)
  | some .ok, .leave => live.filter (·.1 ≠ c.topic)
  | _, _ => live

def callsOn (o : Overlay) (topic : String) : List Call := o.calls.filter (·.topic = topic)

def reply? (o : Overlay) (t : Ticket) : Option Reply :=
  ((o.callsOn t.topic)[t.number]?).bind (·.reply)

def call (o : Overlay) (topic : String) (action : Action) : Overlay × Ticket :=
  let made : Call :=
    match o.behaviour action.kind topic with
    | .answer a => ⟨topic, action, some (a.on topic)⟩
    | .hold => ⟨topic, action, none⟩
  ({ o with live := afterReply o.live made, calls := o.calls ++ [made] },
    ⟨topic, (o.callsOn topic).length⟩)

/-- Which held calls are to be answered, and with what; the oldest come first. -/
structure Release where
  kind : ActionKind
  topic : Option String
  outcome : Answer
  most : Option Nat
  spares : outcome = .reply .died → kind = .publish

def Release.concerns (r : Release) (c : Call) : Bool :=
  c.reply.isNone && decide (c.action.kind = r.kind) && r.topic.all (· = c.topic)

/-- Answers at most `most` of the calls; the second list holds those answered. -/
def Release.answer (r : Release) : (most : Nat) → List Call → List Call × List Call
  | _, [] => ([], [])
  | 0, calls => (calls, [])
  | most + 1, c :: rest =>
    if r.concerns c then
      let c := { c with reply := some (r.outcome.on c.topic) }
      let (rest, answered) := r.answer most rest
      (c :: rest, c :: answered)
    else
      let (rest, answered) := r.answer (most + 1) rest
      (c :: rest, answered)

/-- The number of calls answered, and the overlay afterwards. -/
def release (o : Overlay) (r : Release) : Nat × Overlay :=
  let (calls, answered) := r.answer (r.most.getD o.calls.length) o.calls
  (answered.length, { o with live := answered.foldl afterReply o.live, calls := calls })

/-- The topics that have an endpoint, in order. -/
def liveTopics (o : Overlay) : List String :=
  (o.live.map (·.1)).mergeSort fun s t => decide (¬ t < s)

end Overlay

end BeaconGossip
