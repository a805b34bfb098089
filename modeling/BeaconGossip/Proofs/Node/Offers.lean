import BeaconGossip.Proofs.Controller.Publishing
import BeaconGossip.Proofs.Node.Kept

namespace BeaconGossip

open Scenario (publishCalls)

namespace GossipAttestation

/-- What goes out: the signed aggregate, if there is one. -/
def payload (a : GossipAttestation) : Bytes :=
  match a.aggregate with
  | none => (Message.attestation a.attestation).encode
  | some aggregate => (Message.aggregate aggregate).encode

def marked (a : GossipAttestation) (g : Bool) : GossipAttestation := { a with gossiped := g }

@[simp] theorem marked_marked (a : GossipAttestation) (g g' : Bool) :
    (a.marked g).marked g' = a.marked g' := rfl

/-- Put out by an object that takes it up, if it has not been gossiped and is not too long. -/
def putOut (a : GossipAttestation) (taken : Bool) (limit : Nat) (topic : String) :
    List (String × Bytes) :=
  if taken = true ∧ a.gossiped = false ∧ a.payload.length ≤ limit then [(topic, a.payload)] else []

theorem putOut_marked (a : GossipAttestation) (taken : Bool) (limit : Nat) (topic : String) :
    (a.marked true).putOut taken limit topic = [] := if_neg fun h => Bool.noConfusion h.2.1

theorem putOut_refused (a : GossipAttestation) (limit : Nat) (topic : String) :
    a.putOut false limit topic = [] := if_neg fun h => Bool.noConfusion h.1

theorem length_putOut (a : GossipAttestation) (taken : Bool) (limit : Nat) (topic : String) :
    (a.putOut taken limit topic).length ≤ 1 := by
  rw [putOut]
  split
  · exact Nat.le_refl 1
  · exact Nat.zero_le 1

end GossipAttestation

theorem Channel.output_eq (c : Channel) (payload : Bytes) :
    c.output payload = if payload.length ≤ c.limit then [(c.topic, payload)] else [] := by
  rw [output]
  split
  case isTrue h => rw [if_neg (Nat.not_le_of_lt h)]
  case isFalse h => rw [if_pos (Nat.le_of_not_lt h)]

theorem TopicManager.putOut (m : TopicManager) (a : GossipAttestation) :
    m.aggregateOutput a = a.putOut (m.takes a) m.channel.limit m.topic := by
  rw [aggregateOutput, takes, GossipAttestation.putOut, GossipAttestation.payload]
  cases a.aggregate with
  | none => simp
  | some aggregate =>
    simp only [Channel.output_eq]
    cases m.isActive <;> cases a.gossiped <;> simp [topic]

theorem SubnetSet.putOut {s : SubnetSet} (h : s.Kept) (a : GossipAttestation) :
    ∃ topic, s.output a = a.putOut (s.takes a) s.limit topic := by
  simp only [output, takes, gossipOutput, GossipAttestation.putOut, GossipAttestation.payload]
  generalize a.subnet s.count = id
  have limit : ((s.channel? id).getD (s.newChannel id)).limit = s.limit := by
    cases hc : s.channel? id with
    | none => rfl
    | some c => exact (h.endpoint id c hc).2
  simp only [Channel.output_eq, limit]
  refine ⟨((s.channel? id).getD (s.newChannel id)).topic, ?_⟩
  obtain ⟨attestation, aggregate, _, _, gossiped⟩ := a
  cases aggregate with
  | none => by_cases he : s.enabled = true <;> cases gossiped <;> simp [he]
  | some => simp

/-- Of the two managers that the attestation is offered to, only one is for its kind. -/
theorem Controller.putOut {c : Controller} {mode : Mode} {requested : SubnetId → Prop}
    (h : c.Tracks c.settings mode requested) (a : GossipAttestation) :
    ∃ topic, c.attestationOutput a = a.putOut (c.takes a) c.settings.limit topic := by
  rw [attestationOutput, takes]
  cases hm : c.managers with
  | none => exact ⟨"", by simp [GossipAttestation.putOut]⟩
  | some m =>
    have ht := (h.started m hm).2
    obtain ⟨t, hf, hs⟩ := ht.topic? (c := .aggregate) (by decide)
    have limit : t.channel.limit = c.settings.limit := congrArg (·.2.1) hs
    obtain ⟨topic, hsub⟩ := SubnetSet.putOut ht.kept a
    rw [Option.map_some, Option.getD_some, Option.any_some, Managers.attestationOutput,
      Managers.takes, hf, Option.map_some, Option.getD_some, Option.any_some, hsub, t.putOut,
      ht.limit, limit, SubnetSet.takes, TopicManager.takes]
    cases a.aggregate with
    | none => exact ⟨topic, by simp [GossipAttestation.putOut]⟩
    | some => exact ⟨t.topic, by simp [GossipAttestation.putOut]⟩

namespace GossipObject

/-- Whether the object takes up the attestation when it is offered: the manager for its kind is
active. -/
def takes : GossipObject → GossipAttestation → Bool
  | controller c, a => c.takes a
  | manager m, a => m.takes a
  | subnets s, a => s.takes a
  | channel _, _ => false

/-- The longest payload that the object may publish. -/
def limit : GossipObject → Nat
  | controller c => c.settings.limit
  | manager m => m.channel.limit
  | subnets s => s.limit
  | channel c => c.limit

end GossipObject

namespace Node

/-- Whether the object takes up the attestation. -/
def takes (node : Node) (i : Nat) (a : GossipAttestation) : Bool :=
  (node.objects[i]?).any (·.takes a)

def limit (node : Node) (i : Nat) : Nat := ((node.objects[i]?).map (·.limit)).getD 0

def Event.offers (n : Nat) : Event → Bool
  | .act _ (.publishAttestation m) => decide (m = n)
  | _ => false

/-- Whether the event sets the mark of the attestation, or would if it were still unset. -/
def sets (node : Node) (n : Nat) (a : GossipAttestation) : Event → Bool
  | .mark m => decide (m = n)
  | .act i (.publishAttestation m) => decide (m = n) && node.takes i a
  | _ => false

def everSets (node : Node) (n : Nat) (a : GossipAttestation) : List Event → Bool
  | [] => false
  | e :: es => node.sets n a e || (node.after e).everSets n a es

/-- The publish calls that are made while the event happens. -/
def made (node : Node) (e : Event) : List (String × Bytes) :=
  (publishCalls (node.after e).hub.overlay.calls).drop (publishCalls node.hub.overlay.calls).length

/-- The publish calls that all the offers of the attestation make. -/
def offered (node : Node) (n : Nat) : List Event → List (String × Bytes)
  | [] => []
  | e :: es => (if e.offers n then node.made e else []) ++ (node.after e).offered n es

variable {node : Node} {n : Nat} {a : GossipAttestation} {g : Bool} {i : Nat}

theorem takes_marked (node : Node) (i : Nat) (a : GossipAttestation) (g : Bool) :
    node.takes i (a.marked g) = node.takes i a := by
  rw [takes, takes]
  rcases node.objects[i]? with _ | (c | m | s | c) <;> rfl

theorem perform_attestations {act : Act} (other : ∀ m, act ≠ .publishAttestation m) :
    (node.perform i act).2.attestations = node.attestations := by
  cases act with
  | publishAttestation m => exact (other m rfl).elim
  | start root head =>
    simp only [perform, Node.start]
    split
    · split <;> rfl
    · rfl
  | requestSubnet index =>
    simp only [perform, Node.requestSubnet]
    split
    · split <;> rfl
    all_goals rfl
  | releaseSubnet index =>
    simp only [perform, Node.releaseSubnet]
    split
    · split <;> rfl
    all_goals rfl
  | stop =>
    simp only [perform, Node.stop]
    split <;> rfl
  | stopOptimistic =>
    simp only [perform, Node.stopOptimistic]
    split <;> rfl
  | subscribe =>
    simp only [perform, Node.subscribe]
    split <;> rfl
  | unsubscribe =>
    simp only [perform, Node.unsubscribe]
    split <;> rfl
  | publish message =>
    simp only [perform, Node.publish]
    split <;> rfl
  | publishPayload payload =>
    simp only [perform, Node.publishPayload]
    split <;> rfl
  | gossip m =>
    simp only [perform, Node.gossip]
    split <;> rfl

theorem publishAttestation_attestations (node : Node) (i m : Nat) :
    (node.publishAttestation i m).attestations =
      node.attestations.modify m fun att => if node.takes i att then att.marked true else att := by
  rw [List.modify_eq_set_getElem?]
  cases ha : node.attestations[m]? with
  | none =>
    simp only [Node.publishAttestation, ha]
    split <;> first | rfl | simp_all
  | some att =>
    have refused (ht : node.takes i att = false) :
        node.attestations =
          node.attestations.set m (if node.takes i att then att.marked true else att) := by
      obtain ⟨hlt, he⟩ := List.getElem?_eq_some_iff.1 ha
      rw [ht, if_neg Bool.false_ne_true, ← he, List.set_getElem_self]
    cases ho : node.objects[i]? with
    | none =>
      simp only [Node.publishAttestation, ho, Option.map_eq_map, Option.map_some, Option.getD_some]
      exact refused (by rw [takes, ho, Option.any_none])
    | some o =>
      have ht : node.takes i att = o.takes att := by rw [takes, ho, Option.any_some]
      rw [ht] at refused
      simp only [Node.publishAttestation, ho, ha, Option.map_eq_map, Option.map_some,
        Option.getD_some, ht]
      cases o with
      | controller c =>
        exact congrArg (node.attestations.set m) (c.publishAttestation_mark att node.hub)
      | manager x => exact congrArg (node.attestations.set m) (x.offerAggregate_mark att node.hub)
      | subnets s => exact congrArg (node.attestations.set m) (s.offer_mark att node.hub)
      | channel d => exact refused rfl

/-- The attestation once those at one place have been marked under a condition. -/
theorem getElem?_marked {node' : Node} {m : Nat} {taken : GossipAttestation → Bool}
    (marks : node'.attestations =
      node.attestations.modify m fun att => if taken att then att.marked true else att)
    (ha : node.attestations[n]? = some (a.marked g)) :
    node'.attestations[n]? = some (a.marked (g || (decide (m = n) && taken (a.marked g)))) := by
  rw [marks, List.getElem?_modify, ha]
  by_cases hm : m = n <;> cases ht : taken (a.marked g) <;>
    simp [hm, ht]

theorem attestations_after (ha : node.attestations[n]? = some (a.marked g)) (e : Event) :
    (node.after e).attestations[n]? = some (a.marked (g || node.sets n a e)) := by
  have unset (same : (node.after e).attestations[n]? = node.attestations[n]?)
      (he : node.sets n a e = false) :
      (node.after e).attestations[n]? = some (a.marked (g || node.sets n a e)) := by
    rw [same, he, Bool.or_false, ha]
  cases e with
  | addAttestation att =>
    exact unset (List.getElem?_append_left (List.getElem?_eq_some_iff.1 ha).1) rfl
  | mark m =>
    have marks : (node.after (.mark m)).attestations =
        node.attestations.modify m fun att => if true then att.marked true else att := by
      rw [List.modify_eq_set_getElem?]
      simp only [after, step, Node.mark]
      cases node.attestations[m]? <;> rfl
    rw [getElem?_marked marks ha, sets, Bool.and_true]
  | act i act =>
    by_cases hp : ∃ m, act = .publishAttestation m
    · obtain ⟨m, rfl⟩ := hp
      have marks : (node.after (.act i (.publishAttestation m))).attestations = _ :=
        publishAttestation_attestations node i m
      rw [getElem?_marked marks ha, takes_marked, sets]
    · have other : ∀ m, act ≠ .publishAttestation m := fun m h => hp ⟨m, h⟩
      refine unset (congrArg (·[n]?) (perform_attestations other)) ?_
      cases act with
      | publishAttestation m => exact (other m rfl).elim
      | _ => rfl
  | turn address => exact unset (congrArg (·[n]?) (silent_poll node address).attestations) rfl
  | runTasks => exact unset (congrArg (·[n]?) (silent_sweep node.tasks node).attestations) rfl
  | _ => exact unset rfl rfl

theorem published_offer (h : node.Kept) (ha : node.attestations[n]? = some (a.marked g)) (i : Nat) :
    ∃ topic, publishCalls (node.publishAttestation i n).hub.overlay.calls =
      publishCalls node.hub.overlay.calls ++
        (a.marked g).putOut (node.takes i a) (node.limit i) topic := by
  rw [← takes_marked node i a g, takes, limit]
  have put {node' : Node} {output : List (String × Bytes)} {o : GossipObject}
      (overlay : node'.hub.overlay = node.hub.overlay.published output)
      (out : ∃ topic, output =
        (a.marked g).putOut (o.takes (a.marked g)) o.limit topic) :
      ∃ topic, publishCalls node'.hub.overlay.calls = publishCalls node.hub.overlay.calls ++
        (a.marked g).putOut (o.takes (a.marked g)) o.limit topic := by
    obtain ⟨topic, rfl⟩ := out
    exact ⟨topic, by rw [overlay, Overlay.publishCalls_published]⟩
  cases ho : node.objects[i]? with
  | none =>
    refine ⟨"", ?_⟩
    simp only [Node.publishAttestation, ho]
    rw [Option.any_none, GossipAttestation.putOut_refused, List.append_nil]
  | some o =>
    rw [Option.any_some, Option.map_some, Option.getD_some]
    have kept := h i o ho
    simp only [Node.publishAttestation, ho, ha]
    cases o with
    | controller c =>
      obtain ⟨mode, requested, tracks⟩ := kept
      exact put (c.published_publishAttestation _ node.hub) (Controller.putOut tracks _)
    | manager m => exact put (m.published_offerAggregate _ node.hub) ⟨_, m.putOut _⟩
    | subnets s => exact put (s.published_offer _ node.hub) (SubnetSet.putOut kept _)
    | channel c => exact put rfl ⟨"", (GossipAttestation.putOut_refused ..).symm⟩

theorem made_offer (h : node.Kept) (ha : node.attestations[n]? = some (a.marked g)) (i : Nat) :
    ∃ topic, node.made (.act i (.publishAttestation n)) =
      (a.marked g).putOut (node.takes i a) (node.limit i) topic := by
  obtain ⟨topic, published⟩ := published_offer h ha i
  refine ⟨topic, ?_⟩
  have after : (node.after (.act i (.publishAttestation n))) = node.publishAttestation i n := rfl
  rw [made, after, published, List.drop_left]

theorem Event.offers_iff {e : Event} :
    e.offers n = true ↔ ∃ i, e = .act i (.publishAttestation n) := by
  constructor
  · intro h
    unfold offers at h
    split at h
    · exact ⟨_, by rw [of_decide_eq_true h]⟩
    · cases h
  · rintro ⟨i, rfl⟩
    exact decide_eq_true rfl

/-- Once it has been marked, an attestation is put out no more. -/
theorem offered_marked (h : node.Kept) (ha : node.attestations[n]? = some (a.marked true))
    (es : List Event) : node.offered n es = [] := by
  induction es generalizing node with
  | nil => rfl
  | cons e es ih =>
    rw [offered, ih (h.after e) (attestations_after ha e), List.append_nil]
    split
    case isTrue he =>
      obtain ⟨i, rfl⟩ := Event.offers_iff.1 he
      obtain ⟨topic, made⟩ := made_offer h ha i
      rw [made, GossipAttestation.putOut_marked]
    case isFalse => rfl

theorem length_offered (h : node.Kept) (ha : node.attestations[n]? = some (a.marked g))
    (es : List Event) : (node.offered n es).length ≤ 1 := by
  induction es generalizing node g with
  | nil => exact Nat.zero_le 1
  | cons e es ih =>
    have hafter := attestations_after ha e
    rw [offered]
    split
    case isTrue he =>
      obtain ⟨i, rfl⟩ := Event.offers_iff.1 he
      obtain ⟨topic, made⟩ := made_offer h ha i
      rw [made]
      cases ht : node.takes i a with
      | false =>
        rw [GossipAttestation.putOut_refused, List.nil_append]
        exact ih (h.after _) hafter
      | true =>
        -- The offer has set the mark, so that nothing more comes after it.
        have marked : g || node.sets n a (.act i (.publishAttestation n)) := by simp [sets, ht]
        rw [marked] at hafter
        rw [offered_marked (h.after _) hafter, List.append_nil]
        exact GossipAttestation.length_putOut ..
    case isFalse => exact ih (h.after e) hafter

theorem attestations_run (ha : node.attestations[n]? = some (a.marked g)) (es : List Event) :
    (node.run es).attestations[n]? = some (a.marked (g || node.everSets n a es)) := by
  induction es generalizing node g with
  | nil =>
    rw [everSets, Bool.or_false]
    exact ha
  | cons e es ih =>
    rw [everSets, ← Bool.or_assoc]
    exact ih (attestations_after ha e)

/-- What comes of an attestation in a run, whatever it is offered to and whatever else happens. -/
structure GossipedOnce (base : Node) (a : GossipAttestation) (es : List Event) : Prop where
  once : ((base.after (.addAttestation a)).offered base.attestations.length es).length ≤ 1
  /-- What came from a peer is never put out. -/
  received : (∃ attestation subnet, a = .ofNetwork attestation subnet) ∨
      (∃ aggregate, a = .aggregateOfNetwork aggregate) →
    (base.after (.addAttestation a)).offered base.attestations.length es = []
  /-- The mark is set by an offer that is taken up, or outright; offers that are refused leave it
  as it is. -/
  mark : ((base.after (.addAttestation a)).run es).attestations[base.attestations.length]? =
    some (a.marked (a.gossiped ||
      (base.after (.addAttestation a)).everSets base.attestations.length a es))
  /-- A further offer sets the mark if it is taken up, and puts the attestation out if the mark was
  still unset and the payload is not too long. -/
  offer : ∀ i g,
    ((base.after (.addAttestation a)).run es).attestations[base.attestations.length]? =
      some (a.marked g) →
    ((base.after (.addAttestation a)).run
        (es ++ [.act i (.publishAttestation base.attestations.length)])).attestations[
          base.attestations.length]? =
      some (a.marked (g || ((base.after (.addAttestation a)).run es).takes i a)) ∧
    ∃ topic,
      publishCalls ((base.after (.addAttestation a)).run
          (es ++ [.act i (.publishAttestation base.attestations.length)])).hub.overlay.calls =
        publishCalls ((base.after (.addAttestation a)).run es).hub.overlay.calls ++
          (a.marked g).putOut (((base.after (.addAttestation a)).run es).takes i a)
            (((base.after (.addAttestation a)).run es).limit i) topic
  /-- No call is left for later. -/
  atOnce : ∀ e, (∀ i act, e ≠ .act i act) →
    publishCalls ((base.after (.addAttestation a)).run (es ++ [e])).hub.overlay.calls =
      publishCalls ((base.after (.addAttestation a)).run es).hub.overlay.calls

theorem publishCalls_after {e : Event} (unasked : ∀ i act, e ≠ .act i act) :
    publishCalls (node.after e).hub.overlay.calls = publishCalls node.hub.overlay.calls := by
  cases e with
  | act i act => exact (unasked i act rfl).elim
  | mark m =>
    simp only [after, step, Node.mark]
    split <;> rfl
  | addAttestation => rfl
  | setGenesisRoot => rfl
  | _ => exact (silent_after node rfl).published

theorem gossiped_once {base : Node} (reachable : base.Reachable) (a : GossipAttestation)
    (es : List Event) : GossipedOnce base a es := by
  have kept := reachable.kept.after (.addAttestation a)
  have added : (base.after (.addAttestation a)).attestations[base.attestations.length]? =
      some (a.marked a.gossiped) := List.getElem?_concat_length
  have run := attestations_run added es
  refine ⟨length_offered kept added es, ?_, run, ?_, ?_⟩
  · intro received
    have gossiped : a.gossiped = true := by
      obtain ⟨_, _, rfl⟩ | ⟨_, rfl⟩ := received <;> rfl
    rw [gossiped] at added
    exact offered_marked kept added es
  · intro i g hg
    rw [run_append]
    refine ⟨?_, published_offer (kept.run es) hg i⟩
    rw [attestations_after hg, sets, decide_eq_true rfl, Bool.true_and]
  · intro e unasked
    rw [run_append]
    exact publishCalls_after unasked

/-- Neither a controller that has not been started nor one on an optimistic head takes up what a
subnet set then puts out. -/
theorem gossiped_once_by_subnets :
    let attestation : Attestation := ⟨[], .genesis, []⟩
    let a := GossipAttestation.ofValidator attestation 4
    let es : List Event := [.addController .genesis .standard, .addSubnets .standard ⟨.fill 4 1⟩,
      .act 0 (.publishAttestation 0), .act 0 (.start .zero true), .act 0 (.publishAttestation 0),
      .act 1 .subscribe, .act 1 (.publishAttestation 0), .act 0 (.start .zero false),
      .act 0 (.publishAttestation 0)]
    genesis.Reachable ∧ GossipedOnce genesis a es ∧
      (genesis.after (.addAttestation a)).offered 0 es =
        [("/eth2/01010101/beacon_attestation_6/ssz_snappy", a.payload)] := by
  intro attestation a es
  exact ⟨reachable_genesis, gossiped_once reachable_genesis a es, by decide +kernel⟩

end Node

end BeaconGossip
