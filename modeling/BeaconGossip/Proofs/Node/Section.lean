import BeaconGossip.Proofs.Node.Later
import Mathlib.Data.List.Induction

namespace BeaconGossip

namespace Hub

/-- Lets the publish task of the given number run. -/
def reportAt (h : Hub) (n : Nat) : Hub :=
  match h.publications[n]? with
  | none => h
  | some p =>
    let (registry, p) := reportOne h.overlay h.registry p
    { h with registry := registry, publications := h.publications.set n p }

theorem report_eq (h : Hub) :
    h.report = (List.range h.publications.length).foldl reportAt h := by
  have rest (before rest : List Publication) (r : Registry) :
      (List.range' before.length rest.length).foldl reportAt
          { h with registry := r, publications := before ++ rest } =
        { h with
          registry := (reportAll h.overlay r rest).1
          publications := before ++ (reportAll h.overlay r rest).2 } := by
    induction rest generalizing before r with
    | nil => rfl
    | cons p rest ih =>
      have first : reportAt { h with registry := r, publications := before ++ p :: rest }
            before.length =
          { h with
            registry := (reportOne h.overlay r p).1
            publications := (before ++ [(reportOne h.overlay r p).2]) ++ rest } := by
        simp [reportAt]
      have more := ih (before ++ [(reportOne h.overlay r p).2]) (reportOne h.overlay r p).1
      rw [List.length_append, List.length_singleton] at more
      rw [List.length_cons, List.range'_succ, List.foldl_cons, first, more]
      simp [reportAll]
  rw [List.range_eq_range']
  exact (rest [] h.publications h.registry).symm

theorem overlay_reportAt (h : Hub) (n : Nat) : (h.reportAt n).overlay = h.overlay := by
  unfold reportAt
  split <;> rfl

end Hub

namespace Endpoint

/-- A decoded message goes to the processor of its class. -/
def hand (e : Endpoint) (m : Message) (h : Hub) : Hub :=
  { h with arrivals := h.arrivals ++ [Arrival.mk e.cls (m.operation e.subnet)] }

/-- What does not decode is rejected at once. -/
def refuse (e : Endpoint) (payload : Bytes) (error : GossipError) (h : Hub) : Hub :=
  { h with rejected := h.rejected ++ [e.dump payload error.message] }.count (.inbound e.cls .reject)

/-- The processor has come to its verdict. -/
def conclude (e : Endpoint) (payload : Bytes) (v : Verdict) (h : Hub) : Hub :=
  match v with
  | .reject =>
    { h with rejected := h.rejected ++ [e.dump payload rejectedByProcessor] }.count
      (.inbound e.cls .reject)
  | v => h.count (.inbound e.cls v)

theorem deliver_eq (e : Endpoint) (payload : Bytes) (h : Hub) :
    e.deliver payload h =
      match Message.decode e.cls e.topic payload with
      | .ok m => (h.verdict e.cls, e.conclude payload (h.verdict e.cls) (e.hand m h))
      | .error error => (.reject, e.refuse payload error h) := by
  unfold deliver
  cases Message.decode e.cls e.topic payload with
  | error error => rfl
  | ok m =>
    simp only [conclude, hand]
    cases h.verdict e.cls <;> rfl

end Endpoint

namespace Node

/-- A payload whose processor has not come to a verdict. -/
structure Delivery where
  endpoint : Endpoint
  payload : Bytes
  deriving DecidableEq

/-- What there is between two sections. -/
structure Interim where
  node : Node
  deliveries : List Delivery

inductive Section where
  /-- Takes only one section. -/
  | whole (e : Event)
  /-- The three sections of a start. -/
  | build (object : Nat) (root : Root)
  | handOver (object : Nat)
  | join (object : Nat) (optimistic : Bool)
  /-- The publish task of the given number runs. -/
  | report (n : Nat)
  | receive (endpoint : Endpoint) (payload : Bytes)
  /-- The processor comes to its verdict on one of the waiting deliveries. -/
  | conclude (n : Nat) (v : Verdict)

/-- Puts a controller in place together with what it has done to the schedule and the counters. -/
def putController (node : Node) (i : Nat) (c c' : Controller) (schedule : Schedule)
    (registry : Registry) : Node :=
  { node with schedule := schedule, hub := { node.hub with registry := registry } }.put i
    (.controller c) (.controller c')

def build (node : Node) (i : Nat) (root : Root) : Except GossipError Unit × Node :=
  match node.objects[i]? with
  | some (.controller c) =>
    match c.build root node.schedule node.hub.registry with
    | .error e => (.error e, node)
    | .ok (c', schedule, registry) => (.ok (), node.putController i c c' schedule registry)
  | _ => (.ok (), node)

def handOver (node : Node) (i : Nat) : Node :=
  match node.objects[i]? with
  | some (.controller c) =>
    let (c', registry) := c.handOver node.hub.registry
    node.putController i c c' node.schedule registry
  | _ => node

def join (node : Node) (i : Nat) (optimistic : Bool) : Node :=
  match node.objects[i]? with
  | some (.controller c) => node.put i (.controller c) (.controller (c.subscribe optimistic))
  | _ => node

def withHub (node : Node) (hub : Hub) : Node := { node with hub := hub }

namespace Interim

def fresh (settings : Settings) (schedule : Schedule) : Interim := ⟨.fresh settings schedule, []⟩

def receive (t : Interim) (e : Endpoint) (payload : Bytes) : Interim :=
  match Message.decode e.cls e.topic payload with
  | .ok m => ⟨t.node.withHub (e.hand m t.node.hub), t.deliveries ++ [⟨e, payload⟩]⟩
  | .error error => { t with node := t.node.withHub (e.refuse payload error t.node.hub) }

def conclude (t : Interim) (n : Nat) (v : Verdict) : Interim :=
  match t.deliveries[n]? with
  | none => t
  | some d => ⟨t.node.withHub (d.endpoint.conclude d.payload v t.node.hub), t.deliveries.eraseIdx n⟩

def step (t : Interim) : Section → Interim
  | .whole e => { t with node := t.node.after e }
  | .build i root => { t with node := (t.node.build i root).2 }
  | .handOver i => { t with node := t.node.handOver i }
  | .join i optimistic => { t with node := t.node.join i optimistic }
  | .report n => { t with node := t.node.withHub (t.node.hub.reportAt n) }
  | .receive e payload => t.receive e payload
  | .conclude n v => t.conclude n v

def run (t : Interim) (sections : List Section) : Interim := sections.foldl step t

/-- What the sections of a run come to, each given what there is before it. -/
def collect {α : Type} (f : Interim → Section → List α) (t : Interim) : List Section → List α
  | [] => []
  | s :: rest => f t s ++ (t.step s).collect f rest

theorem run_append (t : Interim) (sections : List Section) (s : Section) :
    t.run (sections ++ [s]) = (t.run sections).step s := by
  rw [run, List.foldl_append]
  rfl

theorem collect_append {α : Type} (f : Interim → Section → List α) (t : Interim)
    (sections : List Section) (s : Section) :
    t.collect f (sections ++ [s]) = t.collect f sections ++ f (t.run sections) s := by
  induction sections generalizing t with
  | nil => exact List.append_nil _
  | cons s' rest ih =>
    rw [List.cons_append, collect, collect, ih, List.append_assoc]
    rfl

/-- What holds at the start and is kept by every section holds between any two. -/
theorem run_invariant {P : Interim → Prop} {t : Interim} (start : P t)
    (step : ∀ t s, P t → P (t.step s)) (sections : List Section) : P (t.run sections) :=
  List.foldlRecOn (motive := P) _ _ start fun t ht s _ => step t s ht

/-- So does what is kept together with all that the sections have come to so far. -/
theorem collect_invariant {α : Type} {f : Interim → Section → List α}
    {P : Interim → List α → Prop} {t : Interim} (start : P t [])
    (step : ∀ t xs s, P t xs → P (t.step s) (xs ++ f t s)) (sections : List Section) :
    P (t.run sections) (t.collect f sections) := by
  induction sections using List.reverseRecOn with
  | nil => exact start
  | append_singleton sections s ih =>
    rw [run_append, collect_append]
    exact step _ _ s ih

end Interim

variable {node : Node} {i : Nat}

/-- With nobody in between, the sections of a start come to the same as the start, but for the order
in which their tasks are spawned. -/
theorem start_eq (node : Node) (i : Nat) (root : Root) (optimistic : Bool) :
    (node.start i root optimistic).1 = (node.build i root).1 ∧
      match (node.build i root).1 with
      | .error _ => (node.start i root optimistic).2 = node ∧ (node.build i root).2 = node
      | .ok _ =>
        let last := ((node.build i root).2.handOver i).join i optimistic
        (node.start i root optimistic).2.objects = last.objects ∧
          (node.start i root optimistic).2.schedule = last.schedule ∧
          (node.start i root optimistic).2.hub = last.hub := by
  unfold Node.start build
  cases ho : node.objects[i]? with
  | none => simp [handOver, join, ho]
  | some o =>
    cases o with
    | controller c =>
      obtain ⟨hlt, -⟩ := List.getElem?_eq_some_iff.1 ho
      simp only [Controller.start]
      cases c.build root node.schedule node.hub.registry with
      | error e => simp
      | ok p =>
        obtain ⟨c', schedule, registry⟩ := p
        simp [handOver, join, putController, put, hlt]
    | _ => simp [handOver, join, ho]

/-- So do the two sections of a delivery. -/
theorem Interim.deliver_eq (t : Interim) (e : Endpoint) (payload : Bytes) :
    t.step (.whole (.deliver e payload)) =
      match Message.decode e.cls e.topic payload with
      | .ok _ => (t.receive e payload).conclude t.deliveries.length (t.node.hub.verdict e.cls)
      | .error _ => t.receive e payload := by
  simp only [step, after, Node.step, Node.deliver, Endpoint.deliver_eq, receive]
  cases Message.decode e.cls e.topic payload with
  | error error => rfl
  | ok m => simp [conclude, withHub, List.eraseIdx_append_of_length_le]

open GossipObject

theorem serves_withHub {hub : Hub} (overlay : hub.overlay = node.hub.overlay) :
    node.Serves (node.withHub hub) := by
  refine .same rfl fun topic => ?_
  rw [withHub, overlay]
  exact .refl

theorem overlay_conclude (e : Endpoint) (payload : Bytes) (v : Verdict) (h : Hub) :
    (e.conclude payload v h).overlay = h.overlay := by
  cases v <;> rfl

namespace Interim

variable {t : Interim}

theorem serves_step (t : Interim) {s : Section} (halfway : ∀ e, s ≠ .whole e) :
    t.node.Serves (t.step s).node := by
  cases s with
  | whole e => exact (halfway e rfl).elim
  | build i root =>
    simp only [step, Node.build]
    split
    · rename_i c hc
      split
      · exact .refl _
      · rename_i hb
        exact .put hc (serves_build hb) rfl fun _ => .refl
    · exact .refl _
  | handOver i =>
    simp only [step, Node.handOver]
    split
    · rename_i c hc
      exact .put hc (serves_handOver c _) rfl fun _ => .refl
    · exact .refl _
  | join i optimistic =>
    simp only [step, Node.join]
    split
    · rename_i c hc
      exact .put hc (serves_map rfl fun m => m.serves_subscribe optimistic) rfl fun _ => .refl
    · exact .refl _
  | report n => exact serves_withHub (Hub.overlay_reportAt _ _)
  | receive e payload =>
    simp only [step, receive]
    split
    · exact serves_withHub rfl
    · exact serves_withHub rfl
  | conclude n v =>
    simp only [step, conclude]
    split
    · exact .refl _
    · exact serves_withHub (overlay_conclude ..)

theorem advances_step (t : Interim) (s : Section) : Advances t.node (t.step s).node := by
  cases s with
  | whole e => exact advances_after t.node e
  | _ => exact .single (t.serves_step fun _ => Section.noConfusion).advance

theorem ordered_run (settings : Settings) (schedule : Schedule) (sections : List Section) :
    ((fresh settings schedule).run sections).node.Ordered :=
  run_invariant (P := (·.node.Ordered)) (fun _ ho => absurd ho List.not_mem_nil)
    (fun t s ordered => Advances.ordered (t.advances_step s) ordered) sections

end Interim

end Node

end BeaconGossip
