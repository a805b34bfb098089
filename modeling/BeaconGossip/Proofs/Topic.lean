import BeaconGossip.Topic
import Std.Data.String.ToNat

namespace BeaconGossip

theorem MessageClass.name_inj {c c' : MessageClass} (h : c.name = c'.name) : c = c' := by
  revert h
  cases c <;> cases c' <;> decide

theorem SubnetId.toString_inj {id id' : SubnetId} (h : id.toString = id'.toString) : id = id' := by
  obtain ⟨index⟩ := id
  obtain ⟨index'⟩ := id'
  have hn : index.toNat = index'.toNat := Nat.repr_injective h
  rw [UInt64.toNat_inj.1 hn]

/-- No class is named like a subnet. -/
theorem TopicKind.ofClass_name_ne (c : MessageClass) (id : SubnetId) :
    (TopicKind.ofClass c).name ≠ (TopicKind.subnet id).name := by
  intro h
  have hl := congrArg (fun s => s.toList.take 19) h
  simp only [TopicKind.name, String.toList_append] at hl
  rw [List.take_left' (by decide)] at hl
  revert hl
  cases c <;> decide

theorem TopicKind.name_inj {k k' : TopicKind} (h : k.name = k'.name) : k = k' := by
  cases k with
  | ofClass c =>
    cases k' with
    | ofClass c' => rw [MessageClass.name_inj h]
    | subnet id => exact (ofClass_name_ne c id h).elim
  | subnet id =>
    cases k' with
    | ofClass c => exact (ofClass_name_ne c id h.symm).elim
    | subnet id' => rw [SubnetId.toString_inj (String.append_right_inj _ |>.1 h)]

theorem TopicNamer.topic_inj {n : TopicNamer} {k k' : TopicKind} (h : n.topic k = n.topic k') :
    k = k' := by
  simp only [TopicNamer.topic, String.append_left_inj, String.append_right_inj] at h
  exact TopicKind.name_inj h

end BeaconGossip
