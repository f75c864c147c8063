import SwaggerSdk.Proofs.Files.Address

/-!
# What the program does to a file tree

Making directories changes no file, and writing a text changes one file only, the one that its path leads to.
Neither takes a directory away, so what a path led to before it still leads to afterwards, and what has been
written stays until something is written there again.
-/

namespace SwaggerSdk

namespace FileTree

/-- The content of the file at an address, if a file is there. -/
def file? (tree : FileTree) (address : Address) : Option ByteArray :=
  match tree.node? address with
  | some (.file content) => some content
  | _ => none

/-- One tree comes from another without loss of a directory, and with no change of files but at some addresses. -/
structure ChangesOnly (changed : List Address) (before after : FileTree) : Prop where
  workingDirectory : after.workingDirectory = before.workingDirectory
  directories : ∀ {address}, before.node? address = some .directory → after.node? address = some .directory
  files : ∀ {address}, address ∉ changed → after.file? address = before.file? address

namespace ChangesOnly

variable {changed changed' : List Address} {before middle after : FileTree}

theorem refl (changed : List Address) (tree : FileTree) : ChangesOnly changed tree tree :=
  ⟨rfl, id, fun _ => rfl⟩

theorem mono (step : ChangesOnly changed before after) (wider : changed ⊆ changed') : ChangesOnly changed' before after :=
  ⟨step.workingDirectory, step.directories, fun outside => step.files fun inside => outside (wider inside)⟩

theorem trans (first : ChangesOnly changed before middle) (second : ChangesOnly changed' middle after) :
    ChangesOnly (changed ++ changed') before after where
  workingDirectory := second.workingDirectory.trans first.workingDirectory
  directories := second.directories ∘ first.directories
  files outside := by
    rw [List.mem_append, not_or] at outside
    exact (second.files outside.2).trans (first.files outside.1)

theorem address_eq (step : ChangesOnly changed before after) (path : String) :
    after.address path = before.address path := by
  unfold address
  rw [step.workingDirectory]

/-! ### Paths lead where they led -/

theorem descend_eq (step : ChangesOnly changed before after) {start names found : Address}
    (h : before.descend start names = .ok found) : after.descend start names = .ok found := by
  induction names generalizing start with
  | nil => exact h
  | cons name names ih =>
    rw [descend] at h
    split at h
    · cases h
    · cases h
    · next isDirectory =>
      split at h
      · cases h
      · next short =>
        rw [descend, step.directories isDirectory]
        simp only [if_neg short]
        exact ih h

theorem locate_eq (step : ChangesOnly changed before after) {path : String} {found : Address}
    (h : before.locate path = .ok found) : after.locate path = .ok found := by
  obtain ⟨passes, descends⟩ := locate_eq_ok_iff.mp h
  refine locate_eq_ok_iff.mpr ⟨passes, ?_⟩
  rw [step.workingDirectory]
  exact step.descend_eq descends

end ChangesOnly

/-! ### Reading and writing -/

section Steps

variable {tree after : FileTree} {path text : String}

theorem readText_of_file {found : Address} {content : ByteArray} (located : tree.locate path = .ok found)
    (file : tree.file? found = some content) (decoded : String.fromUTF8? content = some text) :
    tree.readText path = .ok text := by
  unfold file? at file
  split at file
  next held =>
    cases file
    have opened := find_eq_ok_iff.mpr ⟨found, located, held⟩
    simp only [readText, opened, decoded, bind, Except.bind, pure, Except.pure]
  next => cases file

theorem exists_file_of_readText (h : tree.readText path = .ok text) :
    ∃ content, tree.locate path = .ok (tree.address path) ∧ tree.file? (tree.address path) = some content ∧
      String.fromUTF8? content = some text := by
  unfold readText at h
  cases opened : tree.find path with
  | error cause =>
    rw [opened] at h
    cases h
  | ok node =>
    obtain ⟨found, located, held⟩ := find_eq_ok_iff.mp opened
    obtain rfl := locate_eq_address located
    simp only [opened, bind, Except.bind] at h
    cases node with
    | directory => cases h
    | file content =>
      refine ⟨content, located, by rw [file?, held], ?_⟩
      cases decoded : String.fromUTF8? content with
      | none =>
        simp only [decoded] at h
        cases h
      | some found =>
        simp only [decoded] at h
        rw [Except.ok.inj h]

theorem ChangesOnly.readText_eq {changed : List Address} (step : ChangesOnly changed tree after)
    (outside : tree.address path ∉ changed) (h : tree.readText path = .ok text) :
    after.readText path = .ok text := by
  obtain ⟨content, located, file, decoded⟩ := exists_file_of_readText h
  exact readText_of_file (step.locate_eq located) ((step.files outside).trans file) decoded

theorem node?_set {address other : Address} {node : Node} (present : address ≠ []) :
    (tree.set address node).node? other = if other = address then some node else tree.node? other := by
  by_cases here : other = []
  · rw [here, if_neg (Ne.symm present)]
    rfl
  · have nonempty : other.isEmpty = false := by simpa using here
    simp only [node?, nonempty, Bool.false_eq_true, if_false]
    exact Table.get?_insert tree.nodes address other node

theorem ne_nil_of_node? {address : Address} (h : tree.node? address ≠ some .directory) : address ≠ [] := by
  rintro rfl
  exact h rfl

theorem changesOnly_set {address : Address} {node : Node} (free : tree.node? address ≠ some .directory) :
    ChangesOnly [address] tree (tree.set address node) where
  workingDirectory := rfl
  directories := by
    intro other isDirectory
    rw [node?_set (ne_nil_of_node? free), if_neg]
    · exact isDirectory
    · rintro rfl
      exact free isDirectory
  files := by
    intro other outside
    rw [file?, node?_set (ne_nil_of_node? free), if_neg (List.ne_of_not_mem_cons outside), file?]

theorem writeText_ok (h : tree.writeText path text = .ok after) :
    tree.locate path = .ok (tree.address path) ∧ tree.node? (tree.address path) ≠ some .directory ∧
      after = tree.set (tree.address path) (.file text.toUTF8) := by
  unfold writeText at h
  cases located : tree.locate path with
  | error cause =>
    rw [located] at h
    cases h
  | ok found =>
    obtain rfl := locate_eq_address located
    simp only [located, bind, Except.bind, pure, Except.pure] at h
    split at h
    · cases h
    · next free => exact ⟨rfl, free, (Except.ok.inj h).symm⟩

theorem changesOnly_writeText (h : tree.writeText path text = .ok after) :
    ChangesOnly [tree.address path] tree after := by
  obtain ⟨-, free, rfl⟩ := writeText_ok h
  exact changesOnly_set free

/-- A file can be written at a path: the way there exists, and the place is no directory. -/
def Admits (tree : FileTree) (path : String) : Prop :=
  ∃ found, tree.locate path = .ok found ∧ tree.node? found ≠ some .directory

theorem Admits.exists_writeText (admits : tree.Admits path) (text : String) :
    ∃ after, tree.writeText path text = .ok after := by
  obtain ⟨found, located, free⟩ := admits
  refine ⟨tree.set found (.file text.toUTF8), ?_⟩
  simp only [writeText, located, bind, Except.bind, pure, Except.pure]

/-- Writing a file takes no room from others. -/
theorem Admits.writeText {other : String} (admits : tree.Admits other) (h : tree.writeText path text = .ok after) :
    after.Admits other := by
  obtain ⟨found, located, free⟩ := admits
  have step := changesOnly_writeText h
  obtain ⟨-, vacant, rfl⟩ := writeText_ok h
  refine ⟨found, step.locate_eq located, ?_⟩
  rw [node?_set (ne_nil_of_node? vacant)]
  split
  · nofun
  · exact free

theorem fromUTF8?_toUTF8 (text : String) : String.fromUTF8? text.toUTF8 = some text :=
  dif_pos text.isValidUTF8

theorem readText_writeText (h : tree.writeText path text = .ok after) : after.readText path = .ok text := by
  have step := changesOnly_writeText h
  obtain ⟨located, free, rfl⟩ := writeText_ok h
  refine readText_of_file (step.locate_eq located) ?_ (fromUTF8?_toUTF8 text)
  rw [file?, node?_set (ne_nil_of_node? free), if_pos rfl]

theorem makeDirectory_eq_ok_iff :
    tree.makeDirectory path = .ok after ↔ checkPath path = .ok () ∧
      ∃ found, tree.locate (if (withoutSlashes path).isEmpty then path else withoutSlashes path) = .ok found ∧
        tree.node? found = none ∧ after = tree.set found .directory := by
  unfold makeDirectory
  dsimp only
  generalize (if (withoutSlashes path).isEmpty then path else withoutSlashes path) = bare
  cases checkPath path with
  | error cause => simp [bind, Except.bind]
  | ok =>
    cases located : tree.locate bare with
    | error cause => simp [bind, Except.bind]
    | ok found =>
      cases held : tree.node? found with
      | none => simp [held, bind, Except.bind, pure, Except.pure, eq_comm]
      | some node => simp [held, bind, Except.bind, throw, throwThe, MonadExceptOf.throw]

theorem changesOnly_makeDirectory (h : tree.makeDirectory path = .ok after) : ChangesOnly [] tree after := by
  obtain ⟨-, found, -, vacant, rfl⟩ := makeDirectory_eq_ok_iff.mp h
  have free : tree.node? found ≠ some .directory := by simp [vacant]
  have step : ChangesOnly [found] tree (tree.set found .directory) := changesOnly_set free
  refine ⟨step.workingDirectory, step.directories, fun {other} _ => ?_⟩
  by_cases here : other = found
  · rw [here, file?, file?, node?_set (ne_nil_of_node? free), if_pos rfl, vacant]
  · exact step.files (by simpa using here)

end Steps

/-! ### Making directories -/

theorem run_bind {α β : Type} {action : StateM FileTree α} {next : α → StateM FileTree β} {tree after : FileTree}
    {value : α} (first : action.run tree = (value, after)) :
    (action >>= next).run tree = (next value).run after := by
  rw [StateT.run_bind, first]
  rfl

theorem run_makeDirectory (tree : FileTree) (path : String) :
    (access.makeDirectory path).run tree =
      match tree.makeDirectory path with
      | .ok after => (.ok (), after)
      | .error cause => (.error cause, tree) := rfl

theorem run_writeText (tree : FileTree) (path text : String) :
    (access.writeText path text).run tree =
      match tree.writeText path text with
      | .ok after => (.ok (), after)
      | .error cause => (.error cause, tree) := rfl

def KeepsFiles {α : Type} (action : StateM FileTree α) : Prop :=
  ∀ tree, ChangesOnly [] tree (action.run tree).2

namespace KeepsFiles

variable {α β : Type}

theorem pure (value : α) : KeepsFiles (Pure.pure value) := fun tree => .refl [] tree

theorem bind {action : StateM FileTree α} {next : α → StateM FileTree β} (first : KeepsFiles action)
    (second : ∀ value, KeepsFiles (next value)) : KeepsFiles (action >>= next) := fun tree =>
  (first tree).trans (second _ _)

theorem isDirectory (path : String) : KeepsFiles (access.isDirectory path) := fun tree => .refl [] tree

theorem makeDirectory (path : String) : KeepsFiles (access.makeDirectory path) := by
  intro tree
  rw [run_makeDirectory]
  cases made : tree.makeDirectory path with
  | ok after => exact changesOnly_makeDirectory made
  | error cause => exact .refl [] tree

/-- If a directory cannot be made, it may still be there. -/
theorem orPresent (path : String) (cause : FileError) :
    KeepsFiles (do return if ← access.isDirectory path then Except.ok () else Except.error cause) :=
  (isDirectory path).bind fun _ => pure _

theorem makeFirst (paths : List String) : KeepsFiles (access.makeFirst paths) := by
  induction paths with
  | nil => exact pure _
  | cons path parents ih =>
    unfold FileAccess.makeFirst
    split
    · exact pure _
    · refine (makeDirectory path).bind fun made => ?_
      split
      · exact pure _
      · refine ih.bind fun parentsMade => ?_
        split
        · exact pure _
        · refine (makeDirectory path).bind fun again => ?_
          split
          · exact pure _
          · exact orPresent path _
      · exact orPresent path _

end KeepsFiles

/-- A directory whose parent is there is made in one step. -/
theorem run_makeDirectories_of_ok {tree after : FileTree} {path : String} (made : tree.makeDirectory path = .ok after) :
    (access.makeDirectories path).run tree = (.ok (), after) := by
  have present := (checkPath_eq_ok_iff.mp (makeDirectory_eq_ok_iff.mp made).1).2.1
  have nonempty : path.isEmpty = false := by simpa using present
  have first : (access.makeDirectory path).run tree = (.ok (), after) := by rw [run_makeDirectory, made]
  rw [FileAccess.makeDirectories, Path.ancestors, Path.ancestorsWithin, FileAccess.makeFirst, nonempty]
  simp only [Bool.false_eq_true, if_false]
  rw [run_bind first]
  rfl

theorem run_makeDirectories (tree : FileTree) (path : String) :
    ∃ outcome after, (access.makeDirectories path).run tree = (outcome, after) ∧ ChangesOnly [] tree after :=
  ⟨_, _, rfl, KeepsFiles.makeFirst (Path.ancestors path) tree⟩

end FileTree

end SwaggerSdk
