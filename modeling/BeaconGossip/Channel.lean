import BeaconGossip.Hub

namespace BeaconGossip

namespace Channel

/-- A join or leave that the running task waits for, and the request it acts on. -/
structure Change where
  ticket : Overlay.Ticket
  wanted : Bool
  generation : Nat
  deriving DecidableEq

/-- The newest request at the moment when a task read it. -/
structure Reading where
  wanted : Bool
  generation : Nat
  deriving DecidableEq

end Channel

/-- A topic whose subscription follows the last request. A request only records what is wanted and
adds a reconcile task; these run one at a time. -/
structure Channel where
  endpoint : Endpoint
  /-- The longest payload that may be published. -/
  limit : Nat
  wanted : Bool
  /-- Number of requests so far. -/
  generation : Nat
  /-- Last state that the overlay confirmed. -/
  confirmed : Bool
  /-- Requests up to this one have been dealt with. -/
  settled : Nat
  /-- Reconcile tasks that have not started. -/
  queued : Nat
  /-- What the task that has started waits for. -/
  change : Option Channel.Change
  deriving DecidableEq

namespace Channel

def fresh (endpoint : Endpoint) (limit : Nat) : Channel where
  endpoint := endpoint
  limit := limit
  wanted := false
  generation := 0
  confirmed := false
  settled := 0
  queued := 0
  change := none

def cls (c : Channel) : MessageClass := c.endpoint.cls

def topic (c : Channel) : String := c.endpoint.topic

def request (c : Channel) (wanted : Bool) : Channel :=
  { c with wanted := wanted, generation := c.generation + 1, queued := c.queued + 1 }

def subscribe (c : Channel) : Channel := c.request true

def unsubscribe (c : Channel) : Channel := c.request false

/-- Reconcile tasks that have not ended. -/
def unfinished (c : Channel) : Nat := c.queued + if c.change.isSome then 1 else 0

/-- Raises the watermark, which never falls. -/
def settle (c : Channel) (generation : Nat) : Channel :=
  { c with settled := max c.settled generation }

/-- The task ends with the result of its call. A failure is counted and leaves the confirmed state
alone. -/
def finish (c : Channel) (change : Change) (result : Except GossipError Unit) (r : Registry) :
    Channel × Registry :=
  let c := { c with change := none }.settle change.generation
  match result with
  | .ok () => ({ c with confirmed := change.wanted }, r)
  | .error _ => (c, r.increment (.subscribeFailures c.cls))

/-- The next reconcile task starts, unless another one is at work, and reads the newest request. -/
def read (c : Channel) : Option (Channel × Reading) :=
  match c.change, c.queued with
  | none, queued + 1 => some ({ c with queued := queued }, ⟨c.wanted, c.generation⟩)
  | _, _ => none

/-- The task calls the overlay if what it has read is not what is confirmed, and ends otherwise. -/
def act (c : Channel) (r : Reading) (h : Hub) : Channel × Hub :=
  if r.wanted = c.confirmed then (c.settle r.generation, h)
  else
    let (overlay, ticket) := h.overlay.call c.topic (c.endpoint.switch r.wanted)
    ({ c with change := some ⟨ticket, r.wanted, r.generation⟩ }, { h with overlay := overlay })

/-- The task that waits ends if its call has been answered. -/
def hear (c : Channel) (h : Hub) : Channel × Hub :=
  match c.change with
  | none => (c, h)
  | some change =>
    match h.overlay.reply? change.ticket with
    | none => (c, h)
    | some reply =>
      let (c, registry) := c.finish change reply.result h.registry
      (c, { h with registry := registry })

/-- Lets a reconcile task run until it ends or waits for the overlay. -/
def poll (c : Channel) (h : Hub) : Channel × Hub :=
  match c.read with
  | none => c.hear h
  | some (c, reading) =>
    let (c, h) := c.act reading h
    c.hear h

/-- Hands the payload to the overlay at once, whether or not the topic is joined. A payload above
the limit is refused and counted. -/
def publish (c : Channel) (payload : Bytes) (h : Hub) : Publishing × Hub :=
  if c.limit < payload.length then
    (.refused (.messageTooLarge payload.length c.limit), h.count (.publishFailures c.cls))
  else
    let (overlay, ticket) := h.overlay.call c.topic (.publish payload)
    (.sent ticket,
      { h with
        overlay := overlay
        publications := h.publications ++ [⟨ticket, c.cls, false⟩] })

end Channel

end BeaconGossip
