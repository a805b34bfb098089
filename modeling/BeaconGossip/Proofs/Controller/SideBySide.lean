import BeaconGossip.Proofs.Controller.Convergence
import BeaconGossip.Proofs.Node.Beside
import BeaconGossip.Proofs.Node.Gauge

namespace BeaconGossip

open Node (Act Event Address Reachable)
open Overlay (Ticket news Answers)

namespace Controller

variable {c c' : Controller} {topic : String}

/-- The topics of the controller, once it has been started. -/
def Names (c : Controller) (topic : String) : Prop :=
  ∃ digest kind, c.digest = some digest ∧ topic = (c.settings.namer digest).topic kind

theorem names_of_channel (kept : (GossipObject.controller c).Kept) {lane : Lane} {d : Channel}
    (hd : (GossipObject.controller c).channel? lane = some d) : c.Names d.topic := by
  obtain ⟨mode, requested, tracks⟩ := kept
  cases hm : c.managers with
  | none =>
    rw [GossipObject.channel?_stopped hm] at hd
    cases hd
  | some m =>
    rw [GossipObject.channel?_started hm] at hd
    obtain ⟨kind, -, topic⟩ := (tracks.started m hm).2.lane_topic hd
    exact ⟨m.digest, kind, by rw [digest, hm, Option.map_some], topic⟩

theorem Names.digest_eq (h : c.Names topic) (h' : c'.Names topic) : c'.digest = c.digest := by
  obtain ⟨digest, kind, hd, rfl⟩ := h
  obtain ⟨digest', kind', hd', he⟩ := h'
  have namers := (TopicNamer.eq_of_topic he).1
  rw [hd, hd']
  exact congrArg some (congrArg TopicNamer.digest namers).symm

theorem requestedOf_ne (kept : (GossipObject.controller c).Kept) {d : ForkDigest}
    (hd : c.digest ≠ some d) : requestedOf d c.subnetSet? = 0 := by
  obtain ⟨mode, requested, tracks⟩ := kept
  cases hm : c.managers with
  | none => rw [subnetSet?, hm, Option.map_none, requestedOf]
  | some m =>
    have apart : m.attestation.namer.digest ≠ d := by
      rw [(tracks.started m hm).2.namer]
      rintro rfl
      exact hd (by rw [digest, hm, Option.map_some]; rfl)
    rw [subnetSet?, hm, Option.map_some, requestedOf, if_neg apart]

theorem digest_later {node : Node} {i : Nat} (hc : node.objects[i]? = some (.controller c))
    {d : ForkDigest} (hd : c.digest = some d) {es : List Event}
    (hc' : (node.run es).objects[i]? = some (.controller c')) : c'.digest = some d := by
  obtain ⟨m, hm, -⟩ := Option.map_eq_some_iff.1 hd
  obtain ⟨c₁, hc₁, fixed⟩ := fixed_run hc hm es
  obtain rfl : c₁ = c' := GossipObject.controller.inj (Option.some.inj (hc₁.symm.trans hc'))
  exact fixed.digest.trans hd

end Controller

namespace Node

/-- What happens next in a run of which the acts on a controller are to be left out: the same with
and without them, an act on the controller, or replies of the overlay to either. -/
inductive Episode where
  | common (e : Event)
  | own (act : Act)
  | replies (e e' : Option Event)

def Event.isReply : Event → Bool
  | .release _ | .answer .. => true
  | _ => false

namespace Episode

def whole (i : Nat) : Episode → List Event
  | common e => [e]
  | own act => [.act i act]
  | replies e _ => e.toList

def rest : Episode → List Event
  | common e => [e]
  | own _ => []
  | replies _ e' => e'.toList

/-- Calls on topics other than those of the controller get the same replies. -/
def Parallel (i : Nat) (P : String → Prop) (node node' : Node) : Episode → Prop
  | common e => (∀ act, e ≠ .act i act) ∧ e.isEven = true
  | own _ => True
  | replies e e' => e.all (·.isReply) = true ∧ e'.all (·.isReply) = true ∧
      ∀ t : Ticket, ¬ P t.topic →
        news node'.hub.overlay (node'.run e'.toList).hub.overlay t =
          news node.hub.overlay (node.run e.toList).hub.overlay t

/-- What is offered to the controller and what is offered to others. -/
def Offers (mine : Nat → Prop) : Episode → Prop
  | common e => ∀ n, e.offers n = true → ¬ mine n
  | own act => ∀ n, act = .publishAttestation n → mine n
  | replies _ _ => True

end Episode

/-- The run with everything that is asked of the controller. -/
def whole (i : Nat) (eps : List Episode) : List Event := eps.flatMap (·.whole i)

/-- The run without it. -/
def rest (eps : List Episode) : List Event := eps.flatMap (·.rest)

def Parallel (i : Nat) (P : String → Prop) (node node' : Node) : List Episode → Prop
  | [] => True
  | ep :: eps => ep.Parallel i P node node' ∧
      Parallel i P (node.run (ep.whole i)) (node'.run ep.rest) eps

/-- No attestation is offered to the controller and to another as well. -/
def Unshared (eps : List Episode) : Prop :=
  ∀ n j, .own (.publishAttestation n) ∈ eps → .common (.act j (.publishAttestation n)) ∉ eps

variable {node node' : Node} {i : Nat} {P : String → Prop} {mine : Nat → Prop}
  {eps eps₁ eps₂ : List Episode}

theorem run_isReply (P : String → Prop) (node : Node) {e : Option Event}
    (h : e.all (·.isReply) = true) :
    ∃ o, node.run e.toList = node.withOverlay o ∧ Answers P node.hub.overlay o := by
  cases e with
  | none => exact ⟨node.hub.overlay, rfl, .refl P _⟩
  | some e =>
    cases e with
    | release r => exact ⟨_, rfl, Overlay.answers_release P node.hub.overlay r⟩
    | answer n r => exact ⟨_, rfl, Overlay.answers_answer P node.hub.overlay n r⟩
    | _ => cases h

theorem Parallel.take (h : Parallel i P node node' eps) (prefixed : eps₁ <+: eps) :
    Parallel i P node node' eps₁ := by
  induction eps₁ generalizing node node' eps with
  | nil => trivial
  | cons ep eps₁ ih =>
    obtain ⟨eps₂, rfl⟩ := prefixed
    exact ⟨h.1, ih h.2 (List.prefix_append eps₁ eps₂)⟩

theorem Parallel.drop {ep : Episode} (h : Parallel i P node node' (eps₁ ++ ep :: eps₂)) :
    ep.Parallel i P (node.run (whole i eps₁)) (node'.run (rest eps₁)) := by
  induction eps₁ generalizing node node' with
  | nil => exact h.1
  | cons ep₁ eps₁ ih =>
    rw [whole, List.flatMap_cons, ← run_run, rest, List.flatMap_cons, ← run_run]
    exact ih h.2

theorem whole_mono (i : Nat) (prefixed : eps₁ <+: eps) : whole i eps₁ <+: whole i eps := by
  obtain ⟨eps₂, rfl⟩ := prefixed
  rw [whole, whole, List.flatMap_append]
  exact List.prefix_append ..

theorem Unshared.offers (h : Unshared eps) :
    ∀ ep ∈ eps, ep.Offers fun n => .own (.publishAttestation n) ∈ eps := by
  intro ep mem
  cases ep with
  | common e =>
    intro n he own
    obtain ⟨j, rfl⟩ := Event.offers_iff.1 he
    exact h n j own mem
  | own act =>
    rintro n rfl
    exact mem
  | replies => trivial

namespace Beside

theorem episode (h : Beside i P mine node node') (regular : node.Regular) {ep : Episode}
    (divided : Divided i P (node.run (ep.whole i))) (parallel : ep.Parallel i P node node')
    (offers : ep.Offers mine) : Beside i P mine (node.run (ep.whole i)) (node'.run ep.rest) := by
  cases ep with
  | common e =>
    have before := divided.before (advances_run node _) regular.kept.ordered
    exact h.after regular before parallel.1 parallel.2 offers
  | own act => exact h.perform_own regular.kept divided offers
  | replies e e' =>
    obtain ⟨reply, reply', same⟩ := parallel
    obtain ⟨o, ho, answers⟩ := run_isReply P node reply
    obtain ⟨o', ho', answers'⟩ := run_isReply P node' reply'
    rw [ho, ho'] at same
    rw [Episode.whole, Episode.rest, ho, ho']
    exact h.hubs (answers.beyond answers' h.overlay same) h.outcomes

theorem run (h : Beside i P mine node node') (regular : node.Regular)
    (divided : Divided i P (node.run (whole i eps))) (parallel : Parallel i P node node' eps)
    (offers : ∀ ep ∈ eps, ep.Offers mine) :
    Beside i P mine (node.run (whole i eps)) (node'.run (rest eps)) := by
  induction eps generalizing node node' with
  | nil => exact h
  | cons ep eps ih =>
    rw [List.forall_mem_cons] at offers
    rw [whole, List.flatMap_cons, ← run_run] at divided ⊢
    rw [rest, List.flatMap_cons, ← run_run]
    have middle := regular.run (ep.whole i)
    have before := divided.before (advances_run _ _) middle.kept.ordered
    exact ih (h.episode regular before parallel.1 offers.1) middle divided parallel.2 offers.2

theorem gauge (h : Beside i P mine node node') (gauged : node.Gauged) (gauged' : node'.Gauged)
    {d : ForkDigest} (own : ∀ o ∈ node.objects[i]?, BeaconGossip.requestedOf d o.subnetSet? = 0) :
    node'.hub.registry.gauge d = node.hub.registry.gauge d := by
  rw [gauged.gauge, gauged'.gauge, Node.requestedOf, Node.requestedOf]
  refine congrArg List.sum (List.ext_getElem? fun j => ?_)
  rw [List.getElem?_map, List.getElem?_map]
  by_cases hj : j = i
  · subst hj
    obtain ⟨c, hc, hm⟩ := h.idle
    have hlt := (List.getElem?_eq_some_iff.1 hc).1
    rw [h.length] at hlt
    have ho := List.getElem?_eq_getElem hlt
    have idle : (GossipObject.controller c).subnetSet? = none := by
      rw [GossipObject.subnetSet?, Controller.subnetSet?, hm, Option.map_none]
    rw [hc, ho, Option.map_some, Option.map_some, own _ ho, idle, BeaconGossip.requestedOf]
  · rw [h.objects j hj]

end Beside

/-- As seen from everything but the controller, the two nodes are the same: the objects with all
that they have requested and had confirmed, the calls on other topics, what is live there, how
publishes there have come out, and the gauges of other digests. -/
structure Undisturbed (i : Nat) (c : Controller) (node node' : Node) : Prop where
  objects : ∀ j, j ≠ i → node'.objects[j]? = node.objects[j]?
  calls : ∀ far : String → Bool, (∀ topic, far topic = true → ¬ c.Names topic) →
    node'.hub.overlay.calls.filter (far ·.topic) = node.hub.overlay.calls.filter (far ·.topic)
  live : ∀ topic, ¬ c.Names topic →
    node'.hub.overlay.endpoint? topic = node.hub.overlay.endpoint? topic
  results : ∀ t : Ticket, ¬ c.Names t.topic →
    node'.hub.result? (.sent t) = node.hub.result? (.sent t)
  gauges : ∀ d, c.digest ≠ some d → node'.hub.registry.gauge d = node.hub.registry.gauge d

/-- The controller and the others keep to their own topics in a run. A topic is of the other side if
it is one of the controller's and the object is another, or the other way round. -/
structure Apart (i : Nat) (c : Controller) (start : Node) (es : List Event) : Prop where
  names : ∀ j c', j ≠ i → (start.run es).objects[j]? = some (.controller c') →
    ∀ topic, c'.Names topic → ¬ c.Names topic
  acts : ∀ es₁ j act es₂, es = es₁ ++ .act j act :: es₂ →
    ∀ topic, ¬ (c.Names topic ↔ j = i) →
      ((start.run es₁).perform j act).2.hub.overlay.callsOn topic =
        (start.run es₁).hub.overlay.callsOn topic
  tasks : ∀ es₁ j act es₂, es = es₁ ++ .act j act :: es₂ →
    ∃ lanes : List Lane, ((start.run es₁).perform j act).2.tasks =
      (start.run es₁).tasks ++ lanes.map (Address.mk j)
  /-- Whichever tasks have had turns before. -/
  turns : ∀ es₁, es₁ <+: es → ∀ addresses a topic, ¬ (c.Names topic ↔ a.object = i) →
    (((start.run es₁).sweep addresses).1.poll a).hub.overlay.callsOn topic =
      ((start.run es₁).sweep addresses).1.hub.overlay.callsOn topic

section SideBySide

variable {start : Node} {c : Controller} {es : List Event}

theorem divided_of_digests (kept : node.Kept) (hc : node.objects[i]? = some (.controller c))
    (others : ∀ j o, j ≠ i → node.objects[j]? = some o →
      ∃ c', o = .controller c' ∧ ∀ d, c.digest = some d → c'.digest ≠ some d) :
    Divided i c.Names node := by
  rintro ⟨j, lane⟩ x hx
  obtain ⟨o, ho, hl⟩ := Option.bind_eq_some_iff.1 hx
  constructor
  · intro names
    by_contra hj
    obtain ⟨c', rfl, apart⟩ := others j o hj ho
    have digests := names.digest_eq (Controller.names_of_channel (kept j _ ho) hl)
    obtain ⟨d, kind, hd, -⟩ := names
    exact apart d hd (digests.trans hd)
  · rintro rfl
    obtain rfl := Option.some.inj (ho.symm.trans hc)
    exact Controller.names_of_channel (kept _ _ hc) hl

/-- What the channels are named in the end they have been named all along. -/
theorem Divided.earlier (divided : Divided i P (start.run es)) (regular : start.Regular)
    {es₁ : List Event} (prefixed : es₁ <+: es) : Divided i P (start.run es₁) := by
  obtain ⟨es₂, rfl⟩ := prefixed
  rw [← run_run] at divided
  exact divided.before (advances_run _ es₂) (regular.run es₁).kept.ordered

theorem apart_of_divided (regular : start.Regular) (divided : Divided i c.Names (start.run es))
    (others : ∀ j c', j ≠ i → (start.run es).objects[j]? = some (.controller c') →
      ∀ d, c.digest = some d → c'.digest ≠ some d) : Apart i c start es := by
  refine ⟨?_, ?_, ?_, ?_⟩
  · intro j c' hj hc' topic names' names
    obtain ⟨d, kind, hd, -⟩ := id names
    exact others j c' hj hc' d hd ((names.digest_eq names').trans hd)
  · rintro es₁ j act es₂ rfl topic apart
    have next := divided.earlier regular ⟨es₂, List.append_cons .. |>.symm⟩
    rw [run_append] at next
    exact next.callsOn_perform (regular.run es₁).kept apart
  · rintro es₁ j act es₂ rfl
    exact exists_tasks_perform (regular.run es₁).kept j act
  · intro es₁ prefixed addresses a topic apart
    exact ((divided.earlier regular prefixed).sweep addresses).callsOn_poll apart

theorem beside_unstarted (hc : start.objects[i]? = some (.controller c)) (hm : c.managers = none)
    (P : String → Prop) (mine : Nat → Prop) : Beside i P mine start start :=
  ⟨.refl _, rfl, rfl, fun _ _ => rfl, .refl P _, fun _ _ => rfl, fun _ _ => rfl, rfl, ⟨c, hc, hm⟩,
    rfl⟩

variable (parallel : Parallel i P start start eps) (unshared : Unshared eps)
  (regular : start.Regular) (divided : Divided i P (start.run (whole i eps)))
  (hc : start.objects[i]? = some (.controller c)) (hm : c.managers = none)

include parallel unshared regular divided hc hm

theorem Parallel.beside (prefixed : eps₁ <+: eps) :
    Beside i P (fun n => .own (.publishAttestation n) ∈ eps) (start.run (whole i eps₁))
      (start.run (rest eps₁)) :=
  (beside_unstarted hc hm P _).run regular
    (divided.earlier regular (whole_mono i prefixed)) (parallel.take prefixed)
    fun ep mem => unshared.offers ep (prefixed.subset mem)

theorem Parallel.answer {act : Act} {j : Nat} (he : eps = eps₁ ++ .common (.act j act) :: eps₂) :
    ((start.run (rest eps₁)).perform j act).1 =
      ((start.run (whole i eps₁)).perform j act).1 := by
  have beside := parallel.beside unshared regular divided hc hm ⟨_, he.symm⟩
  have next : eps₁ ++ [.common (.act j act)] <+: eps := ⟨eps₂, by simp [he]⟩
  have after := divided.earlier regular (whole_mono i next)
  rw [whole, List.flatMap_append, List.flatMap_singleton, ← run_run] at after
  have hj : j ≠ i := by
    rintro rfl
    rw [he] at parallel
    exact parallel.drop.1 act rfl
  refine beside.answer (regular.run _).kept hj after fun n hn => ?_
  have mem : .common (.act j act) ∈ eps := by
    rw [he]
    exact List.mem_append_right _ List.mem_cons_self
  refine unshared.offers _ mem n ?_
  rw [hn]
  exact decide_eq_true rfl

end SideBySide

end Node

namespace Controller

open Node (Episode Apart Beside Divided Parallel Undisturbed Unshared whole rest)

/-- A controller that is made next to others, in a run in the end of which no other has its digest.
Neither side makes calls on topics of the other; and if all that has been asked of the controller is
left out, it is the same run to the others. -/
theorem side_by_side {base start : Node} (reachable : base.Reachable) {fork : Fork}
    {settings : Settings} (made : start = base.after (.addController fork settings)) {i : Nat}
    (hi : i = base.objects.length) {eps : List Episode} {c : Controller}
    (hc : (start.run (whole i eps)).objects[i]? = some (.controller c))
    (others : ∀ j o, j ≠ i → (start.run (whole i eps)).objects[j]? = some o →
      ∃ c', o = .controller c' ∧ ∀ d, c.digest = some d → c'.digest ≠ some d) :
    (∀ (n n' : TopicNamer) (kind kind' : TopicKind),
      n.topic kind = n'.topic kind' → n = n' ∧ kind = kind') ∧
    Apart i c start (whole i eps) ∧
    (Parallel i c.Names start start eps → Unshared eps →
      (∀ eps₁, eps₁ <+: eps →
        Undisturbed i c (start.run (whole i eps₁)) (start.run (rest eps₁))) ∧
      ∀ eps₁ j act eps₂, eps = eps₁ ++ .common (.act j act) :: eps₂ →
        ((start.run (rest eps₁)).perform j act).1 =
          ((start.run (whole i eps₁)).perform j act).1) := by
  subst hi
  have reached (es : List Event) : (start.run es).Reachable := by
    obtain ⟨settings₀, schedule, es₀, rfl⟩ := reachable
    refine ⟨settings₀, schedule, es₀ ++ .addController fork settings :: es, ?_⟩
    rw [made, ← Node.run_run]
    rfl
  have regular : start.Regular := (reached []).regular
  have divided := Node.divided_of_digests (reached _).kept hc others
  have first : start.objects[base.objects.length]? =
      some (.controller (.ofFork fork settings)) := by
    rw [made]
    exact (Node.objects_add ..).trans (if_pos rfl)
  refine ⟨fun n n' kind kind' he => TopicNamer.eq_of_topic he, ?_, fun parallel unshared =>
    ⟨fun eps₁ prefixed => ?_, fun eps₁ j act eps₂ he => ?_⟩⟩
  · refine Node.apart_of_divided regular divided fun j c' hj hc' => ?_
    obtain ⟨c'', he, apart⟩ := others j _ hj hc'
    obtain rfl := GossipObject.controller.inj he
    exact apart
  · have same := parallel.beside unshared regular divided first rfl prefixed
    refine ⟨same.objects, same.overlay.calls, same.overlay.live, fun t ht => same.result? ht,
      fun d hd => same.gauge (reached _).gauged (reached _).gauged fun o ho => ?_⟩
    obtain ⟨c₁, hc₁, -⟩ := (tracksIn_added base fork settings).run (whole base.objects.length eps₁)
    rw [← made] at hc₁
    obtain rfl := Option.some.inj (hc₁.symm.trans ho)
    refine requestedOf_ne ((reached _).kept _ _ hc₁) fun named => hd ?_
    obtain ⟨eps₂, rfl⟩ := prefixed
    rw [whole, List.flatMap_append, ← Node.run_run] at hc
    exact digest_later hc₁ named hc
  · exact parallel.answer unshared regular divided first rfl he

/-- Calls on a topic of the controller may be released in the whole run only. -/
theorem parallel_release {c : Controller} {topic : String} (i : Nat) (node node' : Node)
    {r : Overlay.Release} (on : r.topic = some topic) (names : c.Names topic) :
    (Episode.replies (some (.release r)) none).Parallel i c.Names node node' := by
  refine ⟨rfl, rfl, fun t ht => ?_⟩
  have apart : t.topic ≠ topic := by
    rintro rfl
    exact ht names
  have released : news node.hub.overlay (node.hub.overlay.release r).2 t = none :=
    Overlay.news_of_callsOn (Overlay.callsOn_release_ne node.hub.overlay on apart)
  exact (Overlay.news_of_callsOn rfl).trans released.symm

/-- The forks before and after an upgrade, the later one under another prefix. A join of the earlier
one is held for a while. -/
theorem side_by_side_upgrade :
    let upgraded : Fork := ⟨.fill 4 0, .fill 4 1, 5⟩
    let schedule : Schedule := ⟨[.genesis, upgraded], some .zero,
      [((.fill 4 0, .zero), ⟨.fill 4 0⟩), ((.fill 4 1, .zero), ⟨.fill 4 1⟩)]⟩
    let base := (Node.fresh .standard schedule).run
      [.addController upgraded { Settings.standard with space := "eth2/next" }]
    let start := base.after (.addController .genesis .standard)
    let held := "/eth2/00000000/beacon_block/ssz_snappy"
    let attestation : Attestation := ⟨[], .genesis, []⟩
    let eps : List Episode := [
      .common (.addAttestation (.ofValidator attestation 4)),
      .common (.addAttestation (.ofValidator attestation 4)),
      .common (.setRule (.hold .join (some held))),
      .own (.requestSubnet 3), .common (.act 0 (.requestSubnet 3)),
      .own (.start .zero false), .common (.act 0 (.start .zero false)), .common .runTasks,
      .own (.publishAttestation 0), .common (.act 0 (.publishAttestation 1)),
      .replies (some (.release (.accept .join (some held)))) none, .common .runTasks]
    let c := (start.run (whole 1 eps)).controllerAt 1
    Apart 1 c start (whole 1 eps) ∧ Unshared eps ∧ Parallel 1 c.Names start start eps ∧
      Undisturbed 1 c (start.run (whole 1 eps)) (start.run (rest eps)) ∧
      c.Names held ∧ ((start.run (whole 1 eps)).hub.overlay.endpoint? held).isSome = true ∧
      ((start.run (rest eps)).hub.overlay.endpoint? held).isSome = false ∧
      (start.run (whole 1 eps)).hub.registry.gauge ⟨.fill 4 1⟩ = 1 := by
  intro upgraded schedule base start held attestation eps c
  have reachable : base.Reachable := ⟨_, _, _, rfl⟩
  have hc : (start.run (whole 1 eps)).objects[1]? = some (.controller c) := by decide +kernel
  have digest : c.digest = some ⟨.fill 4 0⟩ := by decide +kernel
  have others : ∀ j o, j ≠ 1 → (start.run (whole 1 eps)).objects[j]? = some o →
      ∃ c', o = .controller c' ∧ ∀ d, c.digest = some d → c'.digest ≠ some d := by
    intro j o hj ho
    let c' := (start.run (whole 1 eps)).controllerAt 0
    have hc' : (start.run (whole 1 eps)).objects[0]? = some (.controller c') := by decide +kernel
    have both : (start.run (whole 1 eps)).objects.length = 2 := by decide +kernel
    have hlt := (List.getElem?_eq_some_iff.1 ho).1
    obtain rfl : j = 0 := by omega
    refine ⟨c', Option.some.inj (ho.symm.trans hc'), fun d hd => ?_⟩
    obtain rfl := Option.some.inj (digest.symm.trans hd)
    decide +kernel
  have names : c.Names held := ⟨_, .ofClass .block, digest, by decide +kernel⟩
  have unshared : Unshared eps := by
    intro n j own common
    simp [eps] at own common
    omega
  have parallel : Parallel 1 c.Names start start eps :=
    ⟨⟨nofun, rfl⟩, ⟨nofun, rfl⟩, ⟨nofun, rfl⟩, trivial, ⟨nofun, rfl⟩, trivial, ⟨nofun, rfl⟩,
      ⟨nofun, rfl⟩, trivial, ⟨nofun, rfl⟩, parallel_release 1 _ _ rfl names, ⟨nofun, rfl⟩, trivial⟩
  obtain ⟨-, apart, undisturbed⟩ := side_by_side reachable rfl rfl hc others
  exact ⟨apart, unshared, parallel, (undisturbed parallel unshared).1 eps (List.prefix_refl eps),
    names, by decide +kernel, by decide +kernel, by decide +kernel⟩

end Controller

end BeaconGossip
