import BeaconGossip.Proofs.Hex
import BeaconGossip.Proofs.Topic

namespace BeaconGossip

namespace Text

variable {front front' back back' : List Char}

/-- Where the last slash stands there is no choice. -/
theorem append_slash_inj (hb : '/' ∉ back) (hb' : '/' ∉ back')
    (h : front ++ '/' :: back = front' ++ '/' :: back') : front = front' ∧ back = back' := by
  -- If one front went on past the other, the other back would hold its slash.
  have none_between {c b b' : List Char} (hb : '/' ∉ b) (h : '/' :: b = c ++ '/' :: b') :
      c = [] := by
    cases c with
    | nil => rfl
    | cons x c =>
      obtain ⟨-, rfl⟩ := List.cons.inj h
      exact (hb (List.mem_append_right c List.mem_cons_self)).elim
  obtain ⟨c, rfl, hc⟩ | ⟨c, rfl, hc⟩ := List.append_eq_append_iff.1 h
  · obtain rfl := none_between hb hc
    exact ⟨(List.append_nil front).symm, (List.cons.inj hc).2⟩
  · obtain rfl := none_between hb' hc
    exact ⟨List.append_nil front', (List.cons.inj hc).2.symm⟩

end Text

theorem ForkDigest.toString_inj {d d' : ForkDigest} (h : d.toString = d'.toString) : d = d' := by
  have read (d : ForkDigest) : Hex.read 4 d.toString = .ok d.bytes := by
    rw [Hex.read_eq_ok_iff]
    exact Hex.written_toString d.bytes.1
  have bytes : Except.ok d.bytes = (Except.ok d'.bytes : Except HexError _) := by
    rw [← read, h, read]
  rw [Except.ok.injEq] at bytes
  obtain ⟨b⟩ := d
  exact congrArg ForkDigest.mk bytes

theorem TopicKind.slash_not_mem (kind : TopicKind) : '/' ∉ kind.name.toList := by
  cases kind with
  | ofClass c => cases c <;> decide
  | subnet id =>
    have digits : '/' ∉ id.toString.toList := by
      intro h
      have number : id.toString.toList = Nat.toDigits 10 id.toNat := Nat.toList_repr
      rw [number] at h
      exact Bool.noConfusion (Nat.isDigit_of_mem_toDigits (by decide) (by decide) h)
    rw [name, String.toList_append, String.toList_append, List.mem_append, List.mem_append]
    rintro ((h | h) | h)
    · revert h
      decide
    · revert h
      decide
    · exact digits h

theorem Encoding.slash_not_mem (e : Encoding) : '/' ∉ e.name.toList := by
  cases e
  decide

namespace TopicNamer

variable {n n' : TopicNamer} {kind kind' : TopicKind}

theorem toList_topic (n : TopicNamer) (kind : TopicKind) :
    (n.topic kind).toList = (('/' :: n.space.toList) ++ '/' :: n.digest.toString.toList ++
      '/' :: kind.name.toList) ++ '/' :: n.encoding.name.toList := by
  have slash : "/".toList = ['/'] := rfl
  simp only [topic, String.toList_append, slash, List.cons_append, List.nil_append,
    List.append_assoc]

/-- Namers with a topic in common are the same, and mean the same by it. -/
theorem eq_of_topic (h : n.topic kind = n'.topic kind') : n = n' ∧ kind = kind' := by
  have name := congrArg String.toList h
  rw [toList_topic, toList_topic] at name
  obtain ⟨name, encoding⟩ :=
    Text.append_slash_inj n.encoding.slash_not_mem n'.encoding.slash_not_mem name
  obtain ⟨name, kinds⟩ := Text.append_slash_inj kind.slash_not_mem kind'.slash_not_mem name
  obtain ⟨space, digest⟩ := Text.append_slash_inj (Hex.written_toString _).slash_not_mem
    (Hex.written_toString _).slash_not_mem name
  have digests : n.digest = n'.digest := ForkDigest.toString_inj (String.toList_inj.1 digest)
  have spaces : n.space = n'.space := String.toList_inj.1 (List.cons.inj space).2
  obtain ⟨s, d, e⟩ := n
  obtain ⟨s', d', e'⟩ := n'
  obtain rfl : s = s' := spaces
  obtain rfl : d = d' := digests
  cases e
  cases e'
  exact ⟨rfl, TopicKind.name_inj (String.toList_inj.1 kinds)⟩

end TopicNamer

end BeaconGossip
