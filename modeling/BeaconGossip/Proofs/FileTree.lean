import BeaconGossip.FileTree
import BeaconGossip.Proofs.Topic.Parser

namespace BeaconGossip

theorem Text.segments_append (separator : Char) (text rest : List Char) :
    segments separator (text ++ separator :: rest) =
      segments separator text ++ segments separator rest := by
  induction text with
  | nil =>
    rw [List.nil_append, segments.eq_2, if_pos rfl]
    rfl
  | cons c text ih =>
    rw [List.cons_append, segments, segments, ih]
    split
    case isTrue => rfl
    case isFalse =>
      cases hs : segments separator text with
      | nil =>
        rw [segments_eq_splitOn] at hs
        exact (List.splitOn_ne_nil separator text hs).elim
      | cons first others => rfl

theorem Text.segments_of_not_mem {separator : Char} {text : List Char} (h : separator ∉ text) :
    segments separator text = [text] := by
  apply (segments_eq_iff (List.cons_ne_nil _ _)).2
  constructor
  · simpa using h
  · simp [List.intercalate]

namespace FileTree

/-- A path that goes on from a directory. One that starts at the root goes its own way. -/
def join (directory path : String) : String :=
  if path.toList.head? = some '/' then path
  else if directory = "" ∨ directory.toList.getLast? = some '/' then directory ++ path
  else directory ++ "/" ++ path

/-- A name that leads to what bears it. -/
structure Proper (name : String) : Prop where
  nonempty : name.toList ≠ []
  not_here : name.toList ≠ ['.']
  not_up : name.toList ≠ ['.', '.']
  single : '/' ∉ name.toList

/-- Where a name leads if it is that of a directory. -/
def enter (l : Location) (name : List Char) : Location :=
  if name.isEmpty || name = ['.'] then l
  else if name = ['.', '.'] then l.dropLast
  else l ++ [String.ofList name]

def start (t : FileTree) (path : List Char) : Location :=
  if path.head? = some '/' then [] else t.home

variable {t : FileTree} {l l' : Location} {name directory path : String}

theorem locate_eq (t : FileTree) (path : String) :
    t.locate path = (Text.segments '/' path.toList).foldl enter (t.start path.toList) := rfl

theorem Proper.enter (h : Proper name) (l : Location) : enter l name.toList = l ++ [name] := by
  simp [FileTree.enter, h.nonempty, h.not_here, h.not_up]

theorem start_append {text : List Char} (h : text ≠ []) (rest : List Char) :
    t.start (text ++ rest) = t.start text := by
  cases text with
  | nil => exact (h rfl).elim
  | cons c text => rfl

theorem Proper.locate_append (h : Proper name) (text : List Char) :
    t.locate (String.ofList (text ++ '/' :: name.toList)) =
      (Text.segments '/' text).foldl FileTree.enter (t.start (text ++ ['/'])) ++ [name] := by
  have hstart : t.start (text ++ '/' :: name.toList) = t.start (text ++ ['/']) := by
    cases text <;> rfl
  rw [locate_eq, String.toList_ofList, Text.segments_append, Text.segments_of_not_mem h.single,
    hstart, List.foldl_append, List.foldl_cons, List.foldl_nil, h.enter]

theorem Proper.locate_join (h : Proper name) (t : FileTree) (directory : String) :
    t.locate (join directory name) = t.locate directory ++ [name] := by
  have relative : ¬ name.toList.head? = some '/' := fun hs => h.single (List.mem_of_head? hs)
  rw [join, if_neg relative]
  split
  case isTrue closed =>
    rcases closed with rfl | hlast
    · rw [String.empty_append, locate_eq, Text.segments_of_not_mem h.single, start,
        if_neg relative, List.foldl_cons, List.foldl_nil, h.enter]
      rfl
    · obtain ⟨text, ht⟩ := List.getLast?_eq_some_iff.1 hlast
      have path : directory ++ name = String.ofList (text ++ '/' :: name.toList) := by
        rw [← String.toList_inj, String.toList_append, String.toList_ofList, ht]
        simp
      -- What is behind the last slash of the directory stays there.
      have here : t.locate directory =
          (Text.segments '/' text).foldl FileTree.enter (t.start (text ++ ['/'])) := by
        rw [locate_eq, ht, Text.segments_append, List.foldl_append]
        rfl
      rw [path, h.locate_append, here]
  case isFalse closed =>
    have nonempty : directory.toList ≠ [] :=
      fun hd => closed (.inl (String.toList_eq_nil_iff.1 hd))
    have path : directory ++ "/" ++ name =
        String.ofList (directory.toList ++ '/' :: name.toList) := by
      rw [← String.toList_inj, String.toList_append, String.toList_append, String.toList_ofList]
      simp
    rw [path, h.locate_append, start_append nonempty, locate_eq]

/-- Names that are followed lead where they lead if all but the last are directories. -/
theorem follow_eq_name {names : List (List Char)} (h : t.follow l names = .ok (.name l')) :
    l' = names.foldl enter l := by
  fun_induction follow t l names with
  | case1 => cases h
  | case2 l name rest here ih =>
    rw [List.foldl_cons, enter, if_pos here]
    exact ih h
  | case3 l rest here ih =>
    rw [List.foldl_cons, enter, if_neg here, if_pos rfl]
    exact ih h
  | case4 l name rest here up next known ih =>
    rw [List.foldl_cons, enter, if_neg here, if_neg up]
    exact ih h
  | case5 l name rest here up next unknown last =>
    rw [Except.ok.injEq, Place.name.injEq] at h
    have none : rest = [] := List.isEmpty_iff.1 (Bool.and_eq_true_iff.1 last).1
    rw [none, List.foldl_cons, List.foldl_nil, enter, if_neg here, if_neg up]
    exact h.symm
  | case6 => cases h
  | case7 => cases h

theorem place_eq_name (h : t.place path = .ok (.name l)) : l = t.locate path := by
  rw [place] at h
  split at h
  · cases h
  split at h
  · cases h
  split at h
  · cases h
  rw [locate_eq]
  split at h
  · rename_i rest hpath
    rw [hpath, Text.segments.eq_2, if_pos rfl]
    exact follow_eq_name h
  · rename_i text relative
    have hstart : t.start path.toList = t.home := by
      rw [start, if_neg]
      intro absolute
      obtain ⟨rest, hrest⟩ := List.head?_eq_some_iff.1 absolute
      exact relative rest hrest
    rw [hstart]
    exact follow_eq_name h

end FileTree

end BeaconGossip
