import SwaggerSdk.Files.Access
import SwaggerSdk.Proofs.Text.Cutting

/-!
# Where paths lead

A path leads to one address whatever is in the tree: its names are followed as they are spelled. A plain name
that is joined to a path leads to the place of that name below the place of the path, so two such names below
one path never lead to the same place.
-/

namespace SwaggerSdk

namespace Path

theorem names_append_slash (s t : List Char) : names (s ++ '/' :: t) = names s ++ names t :=
  Text.split_append_cons rfl

theorem isAbsolute_append {base : String} (present : base.toList ≠ []) (rest : String) :
    isAbsolute (base ++ rest) = isAbsolute base := by
  unfold isAbsolute
  rw [String.toList_append]
  cases start : base.toList with
  | nil => exact absurd start present
  | cons c front => rfl

theorem join_empty (name : String) : join "" name = name := by
  simp [join]

theorem join_eq_right_iff {base path : String} (relative : isAbsolute path = false) :
    join base path = path ↔ base = "" := by
  refine ⟨fun stays => ?_, fun same => same ▸ join_empty path⟩
  by_contra nonempty
  have present : base.isEmpty = false := by simpa using nonempty
  have longer : 0 < base.length := Nat.pos_of_ne_zero fun none => nonempty (String.length_eq_zero_iff.mp none)
  rw [join, relative, present] at stays
  have lengths := congrArg String.length stays
  simp only [Bool.or_false, Bool.false_eq_true, if_false] at lengths
  split at lengths
  · rw [String.length_append] at lengths
    omega
  · rw [String.length_append, String.length_append] at lengths
    omega

/-- A name that leads one step down from where it is followed. -/
structure IsPlain (name : String) : Prop where
  noSlash : ∀ c ∈ name.toList, (c == '/') = false
  notIdle : isIdle name.toList = false
  notUp : (name.toList == ['.', '.']) = false

instance (name : String) : Decidable (IsPlain name) :=
  decidable_of_iff ((name.toList.all fun c => !(c == '/')) = true ∧ isIdle name.toList = false ∧
      (name.toList == ['.', '.']) = false)
    ⟨fun h => ⟨by simpa using h.1, h.2.1, h.2.2⟩, fun h => ⟨by simpa using h.noSlash, h.notIdle, h.notUp⟩⟩

variable {name : String} (plain : IsPlain name)

include plain

theorem names_of_plain : names name.toList = [name.toList] :=
  Text.split_plain plain.noSlash

theorem not_isAbsolute_of_plain : isAbsolute name = false := by
  unfold isAbsolute
  cases start : name.toList with
  | nil => rfl
  | cons c rest =>
    have noSlash := plain.noSlash c (start ▸ List.mem_cons_self)
    simpa using noSlash

theorem ne_empty_of_plain : name ≠ "" := by
  rintro rfl
  exact absurd plain.notIdle (by decide)

theorem join_ne_base (base : String) : join base name ≠ base := by
  have relative := not_isAbsolute_of_plain plain
  intro same
  by_cases empty : base = ""
  · rw [empty] at same
    exact ne_empty_of_plain plain (by simpa [join] using same)
  · have nonempty : base.isEmpty = false := by simpa using empty
    have longer : ∀ rest : String, base ++ rest = base → rest = "" := by
      intro rest same
      simpa using congrArg String.toList same
    rw [join] at same
    simp only [relative, nonempty, Bool.or_self, Bool.false_eq_true, if_false] at same
    split at same
    · exact ne_empty_of_plain plain (longer name same)
    · rw [String.append_assoc] at same
      have gone := longer _ same
      simp at gone

theorem exists_join_eq_append {base : String} (present : base ≠ "") : ∃ rest, join base name = base ++ rest := by
  have relative := not_isAbsolute_of_plain plain
  have nonempty : base.isEmpty = false := by simpa using present
  unfold join
  rw [relative, nonempty]
  split
  · next impossible => simp at impossible
  · split
    · exact ⟨name, rfl⟩
    · exact ⟨"/" ++ name, String.append_assoc⟩

theorem isAbsolute_join {base : String} (present : base ≠ "") : isAbsolute (join base name) = isAbsolute base := by
  obtain ⟨rest, joined⟩ := exists_join_eq_append plain present
  rw [joined]
  exact isAbsolute_append (fun h => present (String.toList_eq_nil_iff.mp h)) rest

/-- A plain name that is joined to a path comes behind the names of the path, but for the empty one behind a slash at
its end. -/
theorem names_join {base : String} (present : base ≠ "") :
    ∃ front, names (join base name).toList = front ++ [name.toList] ∧
      (names base.toList = front ∨ names base.toList = front ++ [[]]) := by
  have single := names_of_plain plain
  have relative := not_isAbsolute_of_plain plain
  have nonempty : base.isEmpty = false := by simpa using present
  by_cases closed : base.toList.getLast? = some '/'
  · have joined : join base name = base ++ name := by simp [join, relative, nonempty, closed]
    obtain ⟨front, ends⟩ := List.getLast?_eq_some_iff.mp closed
    refine ⟨names front, ?_, .inr (by rw [ends]; exact names_append_slash front [])⟩
    rw [joined, String.toList_append, ends, List.append_assoc, ← single]
    exact names_append_slash front name.toList
  · have joined : join base name = base ++ ("/" ++ name) := by
      simp [join, relative, nonempty, closed, String.append_assoc]
    refine ⟨names base.toList, ?_, .inl rfl⟩
    rw [joined, String.toList_append, String.toList_append, ← single]
    exact names_append_slash base.toList name.toList

end Path

namespace FileTree

/-- Where a path leads if everything on its way is there. -/
def address (tree : FileTree) (path : String) : Address :=
  (Path.names path.toList).foldl follow (if Path.isAbsolute path then [] else tree.workingDirectory)

theorem descend_eq_foldl {tree : FileTree} {start names found : Address}
    (h : tree.descend start names = .ok found) : found = names.foldl follow start := by
  induction names generalizing start with
  | nil => exact (Except.ok.inj h).symm
  | cons name names ih =>
    rw [descend] at h
    split at h
    · cases h
    · cases h
    · split at h
      · cases h
      · exact ih h

theorem checkPath_eq_ok_iff {path : String} :
    checkPath path = .ok () ↔ '\x00' ∉ path.toList ∧ path ≠ "" ∧ path.utf8ByteSize ≤ pathLimit := by
  unfold checkPath
  rw [String.contains_char_eq]
  split
  · next nul => simp_all
  · next noNul =>
    split
    · next empty => simp_all
    · next nonempty =>
      split
      · next long => simp_all
      · next short => simp_all

theorem checkPath_of_append {path rest : String} (present : path ≠ "") (passes : checkPath (path ++ rest) = .ok ()) :
    checkPath path = .ok () := by
  obtain ⟨noNul, -, short⟩ := checkPath_eq_ok_iff.mp passes
  rw [String.toList_append, List.mem_append, not_or] at noNul
  rw [String.utf8ByteSize_append] at short
  exact checkPath_eq_ok_iff.mpr ⟨noNul.1, present, by omega⟩

/-- A path leads somewhere if nothing is wrong with its text and its names can be followed. -/
theorem locate_eq_ok_iff {tree : FileTree} {path : String} {found : Address} :
    tree.locate path = .ok found ↔ checkPath path = .ok () ∧
      tree.descend (if Path.isAbsolute path then [] else tree.workingDirectory) (Path.names path.toList) = .ok found := by
  unfold locate
  cases checkPath path with
  | error cause => simp [bind, Except.bind]
  | ok => simp [bind, Except.bind]

/-- What is found at a path is what stands where the path leads. -/
theorem find_eq_ok_iff {tree : FileTree} {path : String} {node : Node} :
    tree.find path = .ok node ↔ ∃ found, tree.locate path = .ok found ∧ tree.node? found = some node := by
  unfold find
  cases located : tree.locate path with
  | error cause => simp [bind, Except.bind]
  | ok found =>
    cases held : tree.node? found with
    | none => simp [held, bind, Except.bind, throw, throwThe, MonadExceptOf.throw]
    | some node => simp [held, bind, Except.bind, pure, Except.pure]

theorem descend_append (tree : FileTree) (start : Address) (front names : List (List Char)) :
    tree.descend start (front ++ names) = tree.descend start front >>= fun middle => tree.descend middle names := by
  induction front generalizing start with
  | nil => rfl
  | cons name front ih =>
    rw [List.cons_append, descend, descend]
    split
    · rfl
    · rfl
    · split
      · rfl
      · exact ih _

theorem locate_eq_address {tree : FileTree} {path : String} {found : Address}
    (h : tree.locate path = .ok found) : found = tree.address path :=
  descend_eq_foldl (locate_eq_ok_iff.mp h).2

theorem follow_plain {name : String} (plain : Path.IsPlain name) (start : Address) :
    follow start name.toList = start ++ [name.toList] := by
  simp [follow, plain.notIdle, plain.notUp]

theorem address_join {name : String} (plain : Path.IsPlain name) (tree : FileTree) (base : String) :
    tree.address (Path.join base name) = tree.address base ++ [name.toList] := by
  by_cases empty : base = ""
  · have start : tree.address "" = tree.workingDirectory := rfl
    rw [empty, Path.join_empty, start, address, Path.names_of_plain plain, Path.not_isAbsolute_of_plain plain]
    exact follow_plain plain _
  · obtain ⟨front, joined, ends⟩ := Path.names_join plain empty
    have base_eq : tree.address base = front.foldl follow (if Path.isAbsolute base then [] else tree.workingDirectory) := by
      rcases ends with whole | closed
      · rw [address, whole]
      · rw [address, closed, List.foldl_append]
        rfl
    rw [base_eq, address, joined, Path.isAbsolute_join plain empty, List.foldl_append]
    exact follow_plain plain _

theorem address_join_inj {name name' : String} (plain : Path.IsPlain name) (plain' : Path.IsPlain name')
    {tree : FileTree} {base : String}
    (same : tree.address (Path.join base name) = tree.address (Path.join base name')) : name = name' := by
  rw [address_join plain, address_join plain'] at same
  exact String.toList_inj.mp (List.singleton_inj.mp (List.append_cancel_left same))

end FileTree

end SwaggerSdk
