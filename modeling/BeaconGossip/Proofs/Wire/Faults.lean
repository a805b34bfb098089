import BeaconGossip.Wire

namespace BeaconGossip

/-- Reading, together with the blocks that it takes off the input. -/
abbrev Traced (α : Type) := Bytes → List Bytes × Except WireError (α × Bytes)

namespace Traced

variable {α β : Type}

def pure (x : α) : Traced α := fun bs => ([], .ok (x, bs))

def bind (r : Traced α) (f : α → Traced β) : Traced β := fun bs =>
  match r bs with
  | (taken, .error e) => (taken, .error e)
  | (taken, .ok (x, rest)) => (taken ++ (f x rest).1, (f x rest).2)

def octets (n : Nat) : Traced (Octets n) := fun bs =>
  match Bytes.splitExact n bs with
  | none => ([], .error .unexpectedEnd)
  | some (o, rest) => ([o.1], .ok (o, rest))

def byte : Traced UInt8
  | [] => ([], .error .unexpectedEnd)
  | b :: rest => ([[b]], .ok (b, rest))

def bool : Traced Bool
  | [] => ([], .error .unexpectedEnd)
  | b :: rest =>
    if b = 0 then ([[b]], .ok (false, rest))
    else if b = 1 then ([[b]], .ok (true, rest))
    else ([[b]], .error (.badBool b))

def word : Traced UInt64 :=
  (octets 8).bind fun o => pure (UInt64.ofNat (Bytes.ofLittleEndian o.1))

def many (r : Traced α) : Nat → Traced (List α)
  | 0 => pure []
  | n + 1 => r.bind fun x => (many r n).bind fun xs => pure (x :: xs)

variable {r : Traced α} {f : α → Traced β} {bs rest : Bytes} {taken : List Bytes} {x : α} {y : β}
  {e : WireError}

theorem bind_of_ok (h : r bs = (taken, .ok (x, rest))) :
    r.bind f bs = (taken ++ (f x rest).1, (f x rest).2) := by
  rw [bind, h]

theorem bind_of_error (h : r bs = (taken, .error e)) : r.bind f bs = (taken, .error e) := by
  rw [bind, h]

theorem bind_ok (h : r.bind f bs = (taken, .ok (y, rest))) :
    ∃ first x middle second, r bs = (first, .ok (x, middle)) ∧
      f x middle = (second, .ok (y, rest)) ∧ taken = first ++ second := by
  cases hr : r bs with
  | mk first result =>
    cases result with
    | error e =>
      rw [bind_of_error hr] at h
      cases h
    | ok p =>
      obtain ⟨x, middle⟩ := p
      rw [bind_of_ok hr, Prod.mk.injEq] at h
      exact ⟨first, x, middle, (f x middle).1, rfl, Prod.ext rfl h.2, h.1.symm⟩

theorem bind_error (h : r.bind f bs = (taken, .error e)) :
    r bs = (taken, .error e) ∨
      ∃ first x middle second, r bs = (first, .ok (x, middle)) ∧
        f x middle = (second, .error e) ∧ taken = first ++ second := by
  cases hr : r bs with
  | mk first result =>
    cases result with
    | error e' =>
      rw [bind_of_error hr, Prod.mk.injEq, Except.error.injEq] at h
      obtain ⟨rfl, rfl⟩ := h
      exact .inl rfl
    | ok p =>
      obtain ⟨x, middle⟩ := p
      rw [bind_of_ok hr, Prod.mk.injEq] at h
      exact .inr ⟨first, x, middle, (f x middle).1, rfl, Prod.ext rfl h.2, h.1.symm⟩

/-- The input is read from the left, and each problem is reported as soon as it is met. -/
structure LeftToRight (r : Traced α) : Prop where
  nonempty : ∀ {bs taken result}, r bs = (taken, result) → ∀ block ∈ taken, block ≠ []
  /-- What is read depends on nothing but the bytes that have been taken. -/
  done : ∀ {bs taken x rest}, r bs = (taken, .ok (x, rest)) →
    bs = taken.flatten ++ rest ∧ ∀ more, r (taken.flatten ++ more) = (taken, .ok (x, more))
  /-- An input that ends too soon can be continued. -/
  ended : ∀ {bs taken}, r bs = (taken, .error .unexpectedEnd) →
    taken.flatten <+: bs ∧ ∃ more taken' x, r (bs ++ more) = (taken', .ok (x, []))
  /-- A byte that is no truth value is the last one taken; up to it the input only ends too soon,
  and whatever comes after it does not help. -/
  spoilt : ∀ {bs taken v}, r bs = (taken, .error (.badBool v)) →
    v ≠ 0 ∧ v ≠ 1 ∧ ∃ before after taken', taken.flatten = before ++ [v] ∧
      bs = before ++ v :: after ∧ r before = (taken', .error .unexpectedEnd) ∧
      ∀ more, r (before ++ v :: more) = (taken, .error (.badBool v))

namespace LeftToRight

theorem pure (x : α) : (pure x).LeftToRight := by
  refine ⟨?_, ?_, ?_, ?_⟩
  · intro bs taken result h block hb
    cases h
    cases hb
  · intro bs taken y rest h
    cases h
    exact ⟨rfl, fun _ => rfl⟩
  · intro bs taken h
    cases h
  · intro bs taken v h
    cases h

theorem completed (h : r.LeftToRight) : ∃ bs taken x, r bs = (taken, .ok (x, [])) := by
  cases hr : r [] with
  | mk taken result =>
    cases result with
    | ok p =>
      obtain ⟨x, rest⟩ := p
      have hrest : rest = [] := (List.append_eq_nil_iff.1 (h.done hr).1.symm).2
      exact ⟨[], taken, x, hrest ▸ hr⟩
    | error e =>
      cases e with
      | unexpectedEnd =>
        obtain ⟨-, more, taken', x, hm⟩ := h.ended hr
        exact ⟨more, taken', x, hm⟩
      | badBool v =>
        obtain ⟨-, -, before, after, -, -, hb, -⟩ := h.spoilt hr
        exact (List.append_ne_nil_of_right_ne_nil before (List.cons_ne_nil v after) hb.symm).elim

theorem bind (hr : r.LeftToRight) (hf : ∀ x, (f x).LeftToRight) : (r.bind f).LeftToRight := by
  refine ⟨?_, ?_, ?_, ?_⟩
  · intro bs taken result h
    cases result with
    | ok p =>
      obtain ⟨first, x, middle, second, h₁, h₂, rfl⟩ := bind_ok h
      exact List.forall_mem_append.2 ⟨hr.nonempty h₁, (hf x).nonempty h₂⟩
    | error e =>
      obtain h₁ | ⟨first, x, middle, second, h₁, h₂, rfl⟩ := bind_error h
      · exact hr.nonempty h₁
      · exact List.forall_mem_append.2 ⟨hr.nonempty h₁, (hf x).nonempty h₂⟩
  · intro bs taken y rest h
    obtain ⟨first, x, middle, second, h₁, h₂, rfl⟩ := bind_ok h
    obtain ⟨rfl, again₁⟩ := hr.done h₁
    obtain ⟨rfl, again₂⟩ := (hf x).done h₂
    rw [List.flatten_append]
    refine ⟨(List.append_assoc ..).symm, fun more => ?_⟩
    rw [List.append_assoc, bind_of_ok (again₁ _), again₂]
  · intro bs taken h
    obtain h₁ | ⟨first, x, middle, second, h₁, h₂, rfl⟩ := bind_error h
    · obtain ⟨prefixed, more, taken', x, continued⟩ := hr.ended h₁
      obtain ⟨more', second, y, completed⟩ := (hf x).completed
      obtain ⟨hbs, again⟩ := hr.done continued
      rw [List.append_nil] at hbs
      refine ⟨prefixed, more ++ more', taken' ++ second, y, ?_⟩
      rw [← List.append_assoc, hbs, bind_of_ok (again more'), completed]
    · obtain ⟨rfl, again⟩ := hr.done h₁
      obtain ⟨prefixed, more, second', y, continued⟩ := (hf x).ended h₂
      rw [List.flatten_append]
      refine ⟨(List.prefix_append_right_inj _).2 prefixed, more, first ++ second', y, ?_⟩
      rw [List.append_assoc, bind_of_ok (again _), continued]
  · intro bs taken v h
    obtain h₁ | ⟨first, x, middle, second, h₁, h₂, rfl⟩ := bind_error h
    · obtain ⟨h0, h1, before, after, taken', hflat, hbs, early, late⟩ := hr.spoilt h₁
      exact ⟨h0, h1, before, after, taken', hflat, hbs, bind_of_error early,
        fun more => bind_of_error (late more)⟩
    · obtain ⟨rfl, again⟩ := hr.done h₁
      obtain ⟨h0, h1, before, after, second', hflat, rfl, early, late⟩ := (hf x).spoilt h₂
      refine ⟨h0, h1, first.flatten ++ before, after, first ++ second', ?_, ?_, ?_, ?_⟩
      · rw [List.flatten_append, hflat, List.append_assoc]
      · rw [List.append_assoc]
      · rw [bind_of_ok (again before), early]
      · intro more
        rw [List.append_assoc, bind_of_ok (again _), late]

theorem octets (n : Nat) : (octets (n + 1)).LeftToRight := by
  refine ⟨?_, ?_, ?_, ?_⟩
  · intro bs taken result h block hb
    rw [Traced.octets] at h
    split at h
    · cases h
      cases hb
    · rename_i o rest _
      cases h
      obtain rfl := List.mem_singleton.1 hb
      exact List.ne_nil_of_length_eq_add_one o.2
  · intro bs taken o rest h
    rw [Traced.octets] at h
    split at h
    · cases h
    · rename_i o' rest' hs
      cases h
      rw [List.flatten_singleton]
      refine ⟨Bytes.eq_append_of_splitExact hs, fun more => ?_⟩
      rw [Traced.octets, Bytes.splitExact_append]
  · intro bs taken h
    rw [Traced.octets] at h
    split at h
    · rename_i hs
      cases h
      have short := Bytes.splitExact_eq_none_iff.1 hs
      let o : Octets (n + 1) := ⟨bs ++ List.replicate (n + 1 - bs.length) 0, by
        rw [List.length_append, List.length_replicate]
        omega⟩
      refine ⟨List.nil_prefix, List.replicate (n + 1 - bs.length) 0, [o.1], o, ?_⟩
      have whole := Bytes.splitExact_append o []
      rw [List.append_nil] at whole
      rw [Traced.octets, whole]
    · cases h
  · intro bs taken v h
    rw [Traced.octets] at h
    split at h <;> cases h

theorem byte : byte.LeftToRight := by
  refine ⟨?_, ?_, ?_, ?_⟩
  · intro bs taken result h block hb
    cases bs with
    | nil =>
      cases h
      cases hb
    | cons b rest =>
      cases h
      obtain rfl := List.mem_singleton.1 hb
      exact List.cons_ne_nil b []
  · intro bs taken b rest h
    cases bs with
    | nil => cases h
    | cons b rest =>
      cases h
      exact ⟨rfl, fun _ => rfl⟩
  · intro bs taken h
    cases bs with
    | nil =>
      cases h
      exact ⟨List.nil_prefix, [0], [[0]], 0, rfl⟩
    | cons b rest => cases h
  · intro bs taken v h
    cases bs <;> cases h

theorem bool_cons (b : UInt8) (rest : Bytes) :
    (b = 0 ∧ Traced.bool (b :: rest) = ([[0]], .ok (false, rest))) ∨
      (b = 1 ∧ Traced.bool (b :: rest) = ([[1]], .ok (true, rest))) ∨
      b ≠ 0 ∧ b ≠ 1 ∧ ∀ more, Traced.bool (b :: more) = ([[b]], .error (.badBool b)) := by
  by_cases h0 : b = 0
  · subst h0
    exact .inl ⟨rfl, rfl⟩
  · by_cases h1 : b = 1
    · subst h1
      exact .inr (.inl ⟨rfl, rfl⟩)
    · refine .inr (.inr ⟨h0, h1, ?_⟩)
      intro more
      rw [Traced.bool, if_neg h0, if_neg h1]

/-- The one reader that a byte can put off. -/
theorem bool : bool.LeftToRight := by
  constructor
  · intro bs taken result h block hb
    cases bs with
    | nil =>
      cases h
      cases hb
    | cons b rest =>
      have taken_eq : taken = [[b]] := by
        rcases bool_cons b rest with ⟨rfl, read⟩ | ⟨rfl, read⟩ | ⟨-, -, read⟩
        · exact congrArg Prod.fst (h.symm.trans read)
        · exact congrArg Prod.fst (h.symm.trans read)
        · exact congrArg Prod.fst (h.symm.trans (read rest))
      rw [taken_eq, List.mem_singleton] at hb
      rw [hb]
      exact List.cons_ne_nil b []
  · intro bs taken x rest h
    cases bs with
    | nil => cases h
    | cons b rest' =>
      rcases bool_cons b rest' with ⟨rfl, read⟩ | ⟨rfl, read⟩ | ⟨-, -, read⟩
      · cases read.symm.trans h
        exact ⟨rfl, fun more => rfl⟩
      · cases read.symm.trans h
        exact ⟨rfl, fun more => rfl⟩
      · cases (read rest').symm.trans h
  · intro bs taken h
    cases bs with
    | nil =>
      cases h
      exact ⟨List.nil_prefix, [0], [[0]], false, rfl⟩
    | cons b rest =>
      rcases bool_cons b rest with ⟨rfl, read⟩ | ⟨rfl, read⟩ | ⟨-, -, read⟩
      · cases read.symm.trans h
      · cases read.symm.trans h
      · cases (read rest).symm.trans h
  · intro bs taken v h
    cases bs with
    | nil => cases h
    | cons b rest =>
      rcases bool_cons b rest with ⟨rfl, read⟩ | ⟨rfl, read⟩ | ⟨h0, h1, read⟩
      · cases read.symm.trans h
      · cases read.symm.trans h
      · cases (read rest).symm.trans h
        exact ⟨h0, h1, [], rest, [], rfl, rfl, rfl, read⟩

theorem word : word.LeftToRight := (octets 7).bind fun _ => .pure _

theorem many (h : r.LeftToRight) (n : Nat) : (many r n).LeftToRight := by
  induction n with
  | zero => exact .pure []
  | succ n ih => exact h.bind fun x => ih.bind fun xs => .pure (x :: xs)

end LeftToRight

/-- More input would make the reader succeed. -/
def Completable (r : Traced α) (bs : Bytes) : Prop :=
  ∃ more x rest, (r (bs ++ more)).2 = .ok (x, rest)

/-- The byte at the place is the first after which there is nothing left to hope for. -/
structure Hopeless (r : Traced α) (bs : Bytes) (i : Nat) (v : UInt8) : Prop where
  found : bs[i]? = some v
  no_bool : v ≠ 0 ∧ v ≠ 1
  ends : ¬ r.Completable (bs.take (i + 1))
  first : ∀ j < i, r.Completable (bs.take (j + 1))

namespace LeftToRight

theorem completable_of_start {bs bs' : Bytes} (h : r.Completable bs') (prefixed : bs <+: bs') :
    r.Completable bs := by
  obtain ⟨more, rfl⟩ := prefixed
  obtain ⟨more', x, rest, hm⟩ := h
  exact ⟨more ++ more', x, rest, List.append_assoc bs more more' ▸ hm⟩

theorem completable_of_ended (h : r.LeftToRight) (he : (r bs).2 = .error .unexpectedEnd) :
    r.Completable bs := by
  obtain ⟨-, more, taken', x, hm⟩ := h.ended (Prod.ext rfl he)
  exact ⟨more, x, [], congrArg Prod.snd hm⟩

theorem taken_starts (h : r.LeftToRight) (bs : Bytes) : (r bs).1.flatten <+: bs := by
  cases hr : r bs with
  | mk taken result =>
    cases result with
    | ok p => exact ⟨p.2, (h.done hr).1.symm⟩
    | error e =>
      cases e with
      | unexpectedEnd => exact (h.ended hr).1
      | badBool v =>
        obtain ⟨-, -, before, after, -, hflat, rfl, -⟩ := h.spoilt hr
        refine ⟨after, ?_⟩
        rw [hflat, List.append_assoc]
        rfl

/-- Each block takes up some of the input, so there are no more blocks than bytes. -/
theorem length_taken_le (h : r.LeftToRight) (bs : Bytes) : (r bs).1.length ≤ bs.length := by
  have blocks (taken : List Bytes) (hne : ∀ block ∈ taken, block ≠ []) :
      taken.length ≤ taken.flatten.length := by
    induction taken with
    | nil => exact Nat.le_refl 0
    | cons block rest ih =>
      have hblock := List.length_pos_iff.2 (hne block List.mem_cons_self)
      have hrest := ih fun b hb => hne b (List.mem_cons_of_mem block hb)
      rw [List.flatten_cons, List.length_append, List.length_cons]
      omega
  exact Nat.le_trans (blocks _ (h.nonempty rfl)) (h.taken_starts bs).length_le

/-- A byte that is no truth value is reported where it ends all hope, and nothing is read beyond. -/
theorem hopeless_of_spoilt (h : r.LeftToRight) {v : UInt8}
    (he : (r bs).2 = .error (.badBool v)) :
    ∃ i, r.Hopeless bs i v ∧ (r bs).1.flatten = bs.take (i + 1) := by
  obtain ⟨h0, h1, before, after, taken', hflat, hbs, early, late⟩ := h.spoilt (Prod.ext rfl he)
  have upTo : bs.take (before.length + 1) = before ++ [v] := by
    rw [hbs, List.append_cons, List.take_left' (by rw [List.length_append, List.length_singleton])]
  refine ⟨before.length, ⟨?_, ⟨h0, h1⟩, ?_, ?_⟩, hflat.trans upTo.symm⟩
  · rw [hbs, List.getElem?_append_right (Nat.le_refl _), Nat.sub_self, List.getElem?_cons_zero]
  · rintro ⟨more, x, rest, hm⟩
    rw [upTo, List.append_assoc, List.singleton_append, late] at hm
    cases hm
  · intro j hj
    have hprefix : bs.take (j + 1) <+: before := by
      rw [hbs, List.take_append_of_le_length hj]
      exact List.take_prefix ..
    exact completable_of_start (h.completable_of_ended (congrArg Prod.snd early)) hprefix

theorem not_completable_of_spoilt (h : r.LeftToRight) {v : UInt8}
    (he : (r bs).2 = .error (.badBool v)) : ¬ r.Completable bs := by
  obtain ⟨i, hopeless, -⟩ := h.hopeless_of_spoilt he
  exact fun hc => hopeless.ends (completable_of_start hc (List.take_prefix ..))

/-- Only an input that ends too soon is refused for that. -/
theorem completable_iff (h : r.LeftToRight) (he : (r bs).2 = .error e) :
    r.Completable bs ↔ e = .unexpectedEnd := by
  cases e with
  | unexpectedEnd => exact iff_of_true (h.completable_of_ended he) rfl
  | badBool v => exact iff_of_false (h.not_completable_of_spoilt he) WireError.noConfusion

end LeftToRight

/-- No byte puts the reader off. -/
def Lenient (r : Traced α) : Prop := ∀ bs v, (r bs).2 ≠ .error (.badBool v)

namespace Lenient

theorem pure (x : α) : (pure x).Lenient := by
  intro bs v h
  cases h

theorem bind (hr : r.Lenient) (hf : ∀ x, (f x).Lenient) : (r.bind f).Lenient := by
  intro bs v h
  have refused : r.bind f bs = ((r.bind f bs).1, .error (.badBool v)) := Prod.ext rfl h
  obtain h₁ | ⟨first, x, middle, second, -, h₂, -⟩ := bind_error refused
  · exact hr bs v (congrArg Prod.snd h₁)
  · exact hf x middle v (congrArg Prod.snd h₂)

theorem octets (n : Nat) : (octets n).Lenient := by
  intro bs v h
  rw [Traced.octets] at h
  split at h <;> cases h

theorem byte : byte.Lenient := by
  intro bs v h
  cases bs <;> cases h

theorem word : word.Lenient := (octets 8).bind fun _ => .pure _

theorem many (h : r.Lenient) (n : Nat) : (many r n).Lenient := by
  induction n with
  | zero => exact .pure []
  | succ n ih => exact h.bind fun x => ih.bind fun xs => .pure (x :: xs)

end Lenient

end Traced

namespace Codec

/-- How a codec is put together. -/
inductive Layout : {α : Type} → Codec α → Type 1 where
  | octets (n : Nat) : Layout (octets (n + 1))
  | byte : Layout byte
  | bool : Layout bool
  | pair {α β : Type} {a : Codec α} {b : Codec β} (first : Layout a) (second : Layout b) :
    Layout (a.pair b)
  | map {α β : Type} {c : Codec α} (l : Layout c) (forth : α → β) (back : β → α) :
    Layout (c.map forth back)
  | list {α : Type} {c : Codec α} (l : Layout c) : Layout c.list

namespace Layout

def word : Layout word := map (octets 7) _ _

def bytes : Layout bytes := list byte

def trace {α : Type} {c : Codec α} : Layout c → Traced α
  | octets n => .octets (n + 1)
  | byte => .byte
  | bool => .bool
  | pair first second => first.trace.bind fun x => second.trace.bind fun y => .pure (x, y)
  | map l forth _ => l.trace.bind fun x => .pure (forth x)
  | list l => Traced.word.bind fun n => .many l.trace n.toNat

/-- None of the values is a truth value. -/
def boolFree {α : Type} {c : Codec α} : Layout c → Bool
  | octets _ => true
  | byte => true
  | bool => false
  | pair first second => first.boolFree && second.boolFree
  | map l _ _ => l.boolFree
  | list l => l.boolFree

variable {α β : Type} {c : Codec α}

theorem bind_pure_read {r : Traced α} (hr : ∀ bs, (r bs).2 = c.read bs) (f : α → β) (bs : Bytes) :
    (r.bind (fun x => .pure (f x)) bs).2 = (c.read bs).map fun (x, rest) => (f x, rest) := by
  rw [Traced.bind, ← hr]
  cases r bs with
  | mk taken result => cases result <;> rfl

theorem read_word (bs : Bytes) : (Traced.word bs).2 = Codec.word.read bs := by
  simp only [Traced.word, Traced.bind, Traced.octets, Codec.word, Codec.map, Codec.octets]
  cases Bytes.splitExact 8 bs <;> rfl

theorem read_many {r : Traced α} (hr : ∀ bs, (r bs).2 = c.read bs) (n : Nat) (bs : Bytes) :
    (Traced.many r n bs).2 = c.readMany n bs := by
  induction n generalizing bs with
  | zero => rfl
  | succ n ih =>
    rw [Traced.many, Traced.bind, readMany, ← hr]
    cases r bs with
    | mk taken result =>
      cases result with
      | error e => rfl
      | ok p =>
        obtain ⟨x, rest⟩ := p
        simp only [Traced.bind, ← ih]
        cases Traced.many r n rest with
        | mk taken' result' => cases result' <;> rfl

theorem trace_read (l : Layout c) (bs : Bytes) : (l.trace bs).2 = c.read bs := by
  induction l generalizing bs with
  | octets n =>
    simp only [trace, Traced.octets, Codec.octets]
    cases Bytes.splitExact (n + 1) bs <;> rfl
  | byte => cases bs <;> rfl
  | bool =>
    cases bs with
    | nil => rfl
    | cons b rest =>
      simp only [trace, Traced.bool, Codec.bool]
      split
      · rfl
      · split <;> rfl
  | pair first second ihFirst ihSecond =>
    simp only [trace, Traced.bind, Codec.pair, ← ihFirst, ← ihSecond]
    cases first.trace bs with
    | mk taken result =>
      cases result with
      | error e => rfl
      | ok p =>
        obtain ⟨x, rest⟩ := p
        dsimp only
        cases second.trace rest with
        | mk taken' result' => cases result' <;> rfl
  | map l forth back ih =>
    simp only [trace, Traced.bind, Codec.map, ← ih]
    cases l.trace bs with
    | mk taken result => cases result <;> rfl
  | list l ih =>
    simp only [trace, Traced.bind, Codec.list, ← read_word]
    cases Traced.word bs with
    | mk taken result =>
      cases result with
      | error e => rfl
      | ok p => exact read_many ih p.1.toNat p.2

theorem leftToRight (l : Layout c) : l.trace.LeftToRight := by
  induction l with
  | octets n => exact .octets n
  | byte => exact .byte
  | bool => exact .bool
  | pair first second ihFirst ihSecond =>
    exact ihFirst.bind fun x => ihSecond.bind fun y => .pure (x, y)
  | map l forth back ih => exact ih.bind fun x => .pure (forth x)
  | list l ih => exact Traced.LeftToRight.word.bind fun n => ih.many n.toNat

theorem lenient (l : Layout c) (h : l.boolFree = true) : l.trace.Lenient := by
  induction l with
  | octets n => exact .octets (n + 1)
  | byte => exact .byte
  | bool => cases h
  | pair first second ihFirst ihSecond =>
    obtain ⟨hFirst, hSecond⟩ := Bool.and_eq_true_iff.1 h
    exact (ihFirst hFirst).bind fun x => (ihSecond hSecond).bind fun y => .pure (x, y)
  | map l forth back ih => exact (ih h).bind fun x => .pure (forth x)
  | list l ih => exact Traced.Lenient.word.bind fun n => (ih h).many n.toNat

end Layout

end Codec

end BeaconGossip
