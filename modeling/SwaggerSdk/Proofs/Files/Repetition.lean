import SwaggerSdk.Proofs.Files.Footprint
import SwaggerSdk.Proofs.Peels
import SwaggerSdk.Proofs.Tables

/-!
# Doing again what is done

Writing a text where it stands already, and making a directory that is there, leave a tree as it is. A place below a path
can be reached only through a directory, so where something has been written the directory need not be made again.
-/

namespace SwaggerSdk

theorem Text.exists_stripEnd (p : Char → Bool) (s : List Char) :
    ∃ ending, s = stripEnd p s ++ ending ∧ ∀ c ∈ ending, p c := by
  refine ⟨(s.reverse.takeWhile p).reverse, ?_, fun c inside => ?_⟩
  · rw [stripEnd, ← List.reverse_append, List.takeWhile_append_dropWhile, List.reverse_reverse]
  · exact List.all_eq_true.mp List.all_takeWhile c (List.mem_reverse.mp inside)

namespace Path

theorem names_slashes {slashes : List Char} (all : ∀ c ∈ slashes, c = '/') :
    names slashes = List.replicate (slashes.length + 1) [] := by
  induction slashes with
  | nil => rfl
  | cons c slashes ih =>
    obtain ⟨rfl, others⟩ := List.forall_mem_cons.mp all
    have cut : names ('/' :: slashes) = names [] ++ names slashes := names_append_slash [] slashes
    rw [cut, ih others]
    rfl

theorem names_append_slashes (s : List Char) {slashes : List Char} (all : ∀ c ∈ slashes, c = '/') :
    names (s ++ slashes) = names s ++ List.replicate slashes.length [] := by
  cases slashes with
  | nil => simp
  | cons c slashes =>
    obtain ⟨rfl, others⟩ := List.forall_mem_cons.mp all
    rw [names_append_slash, names_slashes others]
    rfl

end Path

namespace FileTree

variable {tree : FileTree} {path text : String}

/-! ### Writing -/

theorem set_of_node? {address : Address} {node : Node} (present : address ≠ [])
    (held : tree.node? address = some node) : tree.set address node = tree := by
  have nonempty : address.isEmpty = false := by simpa using present
  have found : tree.nodes.get? address = some node := by
    rw [node?, nonempty] at held
    exact held
  rw [set, Table.insert_of_get? found]

theorem toUTF8_of_fromUTF8? {content : ByteArray} (decoded : String.fromUTF8? content = some text) :
    text.toUTF8 = content := by
  unfold String.fromUTF8? at decoded
  split at decoded
  · next valid =>
    rw [← Option.some.inj decoded]
    rfl
  · cases decoded

theorem writeText_of_readText (held : tree.readText path = .ok text) : tree.writeText path text = .ok tree := by
  obtain ⟨content, located, file, decoded⟩ := exists_file_of_readText held
  have node : tree.node? (tree.address path) = some (.file text.toUTF8) := by
    unfold file? at file
    split at file
    · next here => rw [here, toUTF8_of_fromUTF8? decoded, Option.some.inj file]
    · cases file
  have free : tree.node? (tree.address path) ≠ some .directory := by simp [node]
  have present := ne_nil_of_node? free
  simp only [writeText, located, node, bind, Except.bind, pure, Except.pure]
  rw [set_of_node? present node]

/-! ### Directories that are there -/

theorem isPresent_iff :
    tree.isPresent path ↔ ∃ found node, tree.locate path = .ok found ∧ tree.node? found = some node := by
  have opens : tree.isPresent path ↔ ∃ node, tree.find path = .ok node := by
    rw [isPresent]
    cases tree.find path <;> simp
  simp only [opens, find_eq_ok_iff]
  exact exists_comm

theorem isDirectory_iff :
    tree.isDirectory path ↔ ∃ found, tree.locate path = .ok found ∧ tree.node? found = some .directory := by
  rw [← find_eq_ok_iff, isDirectory]
  split
  · next opens => exact iff_of_true rfl opens
  · next other => exact iff_of_false Bool.false_ne_true other

theorem node?_of_descend_cons {start found : Address} {name : List Char} {names : List (List Char)}
    (h : tree.descend start (name :: names) = .ok found) : tree.node? start = some .directory := by
  rw [descend] at h
  split at h
  · cases h
  · cases h
  · assumption

theorem descend_empty {start : Address} (isDirectory : tree.node? start = some .directory) (count : Nat) :
    tree.descend start (List.replicate count []) = .ok start := by
  induction count with
  | zero => rfl
  | succ count ih =>
    rw [List.replicate_succ, descend, isDirectory]
    exact ih

/-- What is reached below a path is reached through a directory. -/
theorem isDirectory_of_locate_join {base name : String} {found : Address} (plain : Path.IsPlain name)
    (present : base ≠ "") (located : tree.locate (Path.join base name) = .ok found) : tree.isDirectory base := by
  obtain ⟨passes, descends⟩ := locate_eq_ok_iff.mp located
  obtain ⟨rest, extended⟩ := Path.exists_join_eq_append plain present
  obtain ⟨front, joined, ends⟩ := Path.names_join plain present
  rw [extended] at passes
  rw [Path.isAbsolute_join plain present, joined, descend_append] at descends
  obtain ⟨middle, first, last⟩ := Peels.bind_eq_pure descends
  have isDirectory := node?_of_descend_cons last
  refine isDirectory_iff.mpr ⟨middle, locate_eq_ok_iff.mpr ⟨checkPath_of_append present passes, ?_⟩, isDirectory⟩
  -- a slash at the end of the path adds an empty name to its names
  rcases ends with whole | closed
  · rw [whole]
    exact first
  · rw [closed, descend_append, first]
    exact descend_empty isDirectory 1

theorem eq_of_descend_empty {start found : Address} {count : Nat}
    (h : tree.descend start (List.replicate count []) = .ok found) : found = start := by
  cases count with
  | zero => exact (Except.ok.inj h).symm
  | succ count =>
    have isDirectory := node?_of_descend_cons h
    rw [descend_empty isDirectory] at h
    exact (Except.ok.inj h).symm

theorem locate_of_append_slashes {slashes : List Char} {found : Address} (all : ∀ c ∈ slashes, c = '/')
    (present : path ≠ "") (located : tree.locate (path ++ String.ofList slashes) = .ok found) :
    tree.locate path = .ok found := by
  have nonempty : path.toList ≠ [] := fun h => present (String.toList_eq_nil_iff.mp h)
  obtain ⟨passes, descends⟩ := locate_eq_ok_iff.mp located
  rw [Path.isAbsolute_append nonempty, String.toList_append, String.toList_ofList, Path.names_append_slashes _ all,
    descend_append] at descends
  obtain ⟨middle, first, last⟩ := Peels.bind_eq_pure descends
  obtain rfl := eq_of_descend_empty last
  exact locate_eq_ok_iff.mpr ⟨checkPath_of_append present passes, first⟩

theorem makeDirectory_of_isDirectory (there : tree.isDirectory path) :
    tree.makeDirectory path = .error .alreadyExists := by
  obtain ⟨found, located, isDirectory⟩ := isDirectory_iff.mp there
  have passes := (locate_eq_ok_iff.mp located).1
  have again : tree.locate (if (withoutSlashes path).isEmpty then path else withoutSlashes path) = .ok found := by
    split
    · exact located
    · next nonempty =>
      obtain ⟨slashes, parts, all⟩ := Text.exists_stripEnd (· == '/') path.toList
      have spelled : path = withoutSlashes path ++ String.ofList slashes := by
        rw [withoutSlashes, ← String.ofList_append, ← parts, String.ofList_toList]
      rw [spelled] at located
      exact locate_of_append_slashes (fun c inside => eq_of_beq (all c inside)) (by simpa using nonempty) located
  simp only [makeDirectory, passes, again, isDirectory, bind, Except.bind]
  rfl

/-- Making the directories on a path ends at once if the path leads to one. -/
theorem run_makeDirectories_of_isDirectory (there : path = "" ∨ tree.isDirectory path) :
    (access.makeDirectories path).run tree = (.ok (), tree) := by
  rw [FileAccess.makeDirectories, Path.ancestors, Path.ancestorsWithin, FileAccess.makeFirst]
  rcases there with rfl | there
  · rfl
  · split
    · rfl
    · have attempt : (access.makeDirectory path).run tree = (.error .alreadyExists, tree) := by
        rw [run_makeDirectory, makeDirectory_of_isDirectory there]
      have look : (access.isDirectory path).run tree = (true, tree) := by
        rw [← there]
        rfl
      rw [run_bind attempt]
      dsimp only
      rw [run_bind look]
      rfl

end FileTree

end SwaggerSdk
