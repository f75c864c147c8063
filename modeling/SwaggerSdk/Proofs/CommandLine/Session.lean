import SwaggerSdk.Proofs.CommandLine.Runs
import SwaggerSdk.Proofs.Files.Repetition

/-!
# Sessions

Runs follow one another on the same files, and each finds what those before it have left. `session_footprint` says which
files may have changed in the end: the configuration, where `init` has written it, and the pieces in the output
directories of runs whose checks have passed.
-/

namespace SwaggerSdk

/-! ### Actions that only read -/

/-- Running an action changes nothing. -/
def FileTree.OnlyReads {α : Type} (action : StateM FileTree α) : Prop := ∀ tree, (action.run tree).2 = tree

namespace FileTree.OnlyReads

variable {α β : Type}

theorem pure (value : α) : OnlyReads (Pure.pure value) := fun _ => rfl

theorem bind {action : StateM FileTree α} {next : α → StateM FileTree β} (first : OnlyReads action)
    (second : ∀ value, OnlyReads (next value)) : OnlyReads (action >>= next) := fun tree =>
  (second _ _).trans (first tree)

theorem readText (path : String) : OnlyReads (access.readText path) := fun _ => rfl

theorem isPresent (path : String) : OnlyReads (access.isPresent path) := fun _ => rfl

theorem run_eq {action : StateM FileTree α} (reads : OnlyReads action) (tree : FileTree) :
    action.run tree = ((action.run tree).1, tree) :=
  Prod.ext rfl (reads tree)

theorem loadDocument (path : String) : OnlyReads (Document.load access path) := by
  refine (readText path).bind fun result => ?_
  split <;> exact pure _

theorem loadConfig (path : String) : OnlyReads (Config.load access path) := by
  refine (isPresent path).bind fun present => ?_
  split
  · exact pure _
  · refine (readText path).bind fun result => ?_
    split
    · exact pure _
    · split <;> exact pure _

theorem resolve (flags : Flags) : OnlyReads (flags.resolve access) := by
  have base : OnlyReads (flags.base access) := by
    unfold Flags.base
    split
    · refine (loadConfig _).bind fun result => ?_
      split <;> exact pure _
    · exact (loadConfig _).bind fun result => pure _
  exact base.bind fun result => pure _

theorem validate (around : Surroundings) (input : String) : OnlyReads (CommandLine.validate access around input) := by
  refine (loadDocument input).bind fun result => ?_
  split <;> exact pure _

theorem inspect (around : Surroundings) (input : String) (format : TextFormat) :
    OnlyReads (CommandLine.inspect access around input format) := by
  refine (loadDocument input).bind fun result => ?_
  split <;> exact pure _

end FileTree.OnlyReads

namespace CommandLine

/-! ### Turns -/

structure Turn where
  arguments : List String
  before : FileTree
  outcome : Outcome
  after : FileTree

def turn (around : Surroundings) (arguments : List String) : StateM FileTree Turn := do
  let before ← get
  let outcome ← run FileTree.access around arguments
  return ⟨arguments, before, outcome, ← get⟩

/-- Runs the program several times on the same files. -/
def session (around : Surroundings) (runs : List (List String)) : StateM FileTree (List Turn) :=
  runs.mapM (turn around)

namespace Turn

/-- A file has been created or changed. -/
def Changes (turn : Turn) (address : Address) : Prop := turn.after.file? address ≠ turn.before.file? address

/-- What a run may write: a configuration, which replaces another one only if that is asked for, and the pieces of an SDK
directly in the output directory, if all checks of the run have passed. -/
inductive MayWrite (turn : Turn) : Address → Prop
  | configuration {isForced : Bool} (asked : read turn.arguments = .ok (.init isForced))
      (fresh : isForced ∨ turn.before.file? (turn.before.address Config.fileName) = none) :
      MayWrite turn (turn.before.address Config.fileName)
  | piece {flags : Flags} {config : Config} {language : Language} {document : Document} (piece : Sdk.Piece)
      (asked : read turn.arguments = .ok (.generate flags))
      (resolved : (flags.resolve FileTree.access).run turn.before = (.ok config, turn.before))
      (passes : config.Passes turn.before language document) :
      MayWrite turn (turn.before.address config.outputDir ++ [(piece.fileName language).toList])

/-- A run that has nothing to write: it asks for something else or is misused, it fails in another way than by writing, or
there is a configuration already that it was not told to replace. -/
def Refrains (turn : Turn) : Prop :=
  match read turn.arguments with
  | .ok (.generate _) => turn.outcome.exitCode ≠ 0 ∧ ¬turn.outcome.FailsToWrite
  | .ok (.init isForced) => isForced = false ∧ turn.before.file? (turn.before.address Config.fileName) ≠ none
  | .ok (.validate _) | .ok (.inspect _ _) | .ok (.completions _) | .error _ => True

/-- What every run keeps to. -/
structure Keeps (turn : Turn) : Prop where
  workingDirectory : turn.after.workingDirectory = turn.before.workingDirectory
  changes : ∀ address, turn.Changes address → turn.MayWrite address
  refrains : turn.Refrains → turn.after = turn.before

theorem keeps_of_unchanged {turn : Turn} (unchanged : turn.after = turn.before) : turn.Keeps where
  workingDirectory := by rw [unchanged]
  changes address changed := absurd (by rw [unchanged]) changed
  refrains _ := unchanged

theorem keeps_of_reads {action : StateM FileTree Outcome} (reads : FileTree.OnlyReads action) {turn : Turn}
    (ran : action.run turn.before = (turn.outcome, turn.after)) : turn.Keeps := by
  rw [reads.run_eq] at ran
  exact keeps_of_unchanged (Prod.mk.inj ran).2.symm

/-- Where there is no configuration file there is room for one, or nothing can be written at all. -/
theorem file?_of_not_isPresent {tree after : FileTree} {path text : String} (absent : tree.isPresent path = false)
    (written : tree.writeText path text = .ok after) : tree.file? (tree.address path) = none := by
  have located := (FileTree.writeText_ok written).1
  cases held : tree.node? (tree.address path) with
  | none => rw [FileTree.file?, held]
  | some node =>
    rw [FileTree.isPresent_iff.mpr ⟨_, node, located, held⟩] at absent
    cases absent

theorem keeps_init {turn : Turn} {isForced : Bool} (asked : read turn.arguments = .ok (.init isForced))
    (ran : (init FileTree.access isForced).run turn.before = (turn.outcome, turn.after)) : turn.Keeps := by
  have look : (FileTree.access.isPresent Config.fileName).run turn.before =
      (turn.before.isPresent Config.fileName, turn.before) := rfl
  rw [init, FileTree.run_bind look] at ran
  split at ran
  · exact keeps_of_unchanged (Prod.mk.inj ran).2.symm
  · next allowed =>
    have writing := FileTree.run_writeText turn.before Config.fileName Config.fileTemplate
    cases written : turn.before.writeText Config.fileName Config.fileTemplate with
    | error cause =>
      rw [written] at writing
      rw [writeTemplate, FileTree.run_bind writing] at ran
      exact keeps_of_unchanged (Prod.mk.inj ran).2.symm
    | ok after =>
      rw [written] at writing
      rw [writeTemplate, FileTree.run_bind writing] at ran
      obtain ⟨-, rfl⟩ := Prod.mk.inj ran
      have step := FileTree.changesOnly_writeText written
      -- without the flag the run has got here only because no such file is present
      have fresh : isForced ∨ turn.before.file? (turn.before.address Config.fileName) = none := by
        cases isForced with
        | true => exact Or.inl rfl
        | false => exact Or.inr (file?_of_not_isPresent (by simpa using allowed) written)
      refine ⟨step.workingDirectory, fun address changed => ?_, fun refrains => ?_⟩
      · have here : address = turn.before.address Config.fileName := by
          by_contra elsewhere
          exact changed (step.files (by simpa using elsewhere))
        rw [here]
        exact .configuration asked fresh
      · rw [Refrains, asked] at refrains
        obtain ⟨rfl, present⟩ := refrains
        exact absurd (fresh.resolve_left Bool.false_ne_true) present

theorem keeps_generate (around : Surroundings) {turn : Turn} {flags : Flags}
    (asked : read turn.arguments = .ok (.generate flags))
    (ran : (generate FileTree.access around flags).run turn.before = (turn.outcome, turn.after)) : turn.Keeps := by
  have resolved := (FileTree.OnlyReads.resolve flags).run_eq turn.before
  cases result : ((flags.resolve FileTree.access).run turn.before).1 with
  | error cause =>
    rw [result] at resolved
    rw [generate, FileTree.run_bind resolved] at ran
    exact keeps_of_unchanged (Prod.mk.inj ran).2.symm
  | ok config =>
    rw [result] at resolved
    cases named : config.input.isNone with
    | true =>
      rw [generate, FileTree.run_bind resolved] at ran
      simp only [named, if_true] at ran
      exact keeps_of_unchanged (Prod.mk.inj ran).2.symm
    | false =>
      obtain ⟨result, after, -, ran', fate⟩ := run_generate_of_resolve around resolved named
      obtain ⟨ending, rfl⟩ := Prod.mk.inj (ran'.symm.trans ran)
      rw [ending] at fate
      rcases fate with ⟨language, document, passes, written, step⟩ | ⟨-, -, -, unchanged⟩
      · refine ⟨step.workingDirectory, fun address changed => ?_, fun refrains => ?_⟩
        · have listed : address ∈ config.placesIn turn.before language := by
            by_contra outside
            exact changed (step.files outside)
          obtain ⟨piece, -, rfl⟩ := List.mem_map.mp listed
          rw [Config.pathOf, FileTree.address_join (Config.isPlain_fileName language piece)]
          exact .piece piece asked resolved passes
        · rw [Refrains, asked] at refrains
          exact absurd written (not_or.mpr refrains)
      · exact keeps_of_unchanged unchanged

/-- One step of a session: whatever a run is asked for, it writes only what it may. -/
theorem keeps_turn (around : Surroundings) {turn : Turn}
    (ran : (run FileTree.access around turn.arguments).run turn.before = (turn.outcome, turn.after)) : turn.Keeps := by
  rw [run] at ran
  cases asked : read turn.arguments with
  | error stop =>
    rw [asked] at ran
    exact keeps_of_reads (FileTree.OnlyReads.pure _) ran
  | ok request =>
    rw [asked] at ran
    cases request with
    | generate flags => exact keeps_generate around asked ran
    | validate input => exact keeps_of_reads (FileTree.OnlyReads.validate around input) ran
    | inspect input format => exact keeps_of_reads (FileTree.OnlyReads.inspect around input format) ran
    | init isForced => exact keeps_init asked ran
    | completions shell => exact keeps_of_reads (FileTree.OnlyReads.pure _) ran

end Turn

/-! ### Whole sessions -/

theorem run_turn (around : Surroundings) (arguments : List String) (tree : FileTree) :
    ∃ turn : Turn, turn.arguments = arguments ∧ turn.before = tree ∧ turn.Keeps ∧
      (CommandLine.turn around arguments).run tree = (turn, turn.after) := by
  let ran := (run FileTree.access around arguments).run tree
  exact ⟨⟨arguments, tree, ran.1, ran.2⟩, rfl, rfl, Turn.keeps_turn around rfl, rfl⟩

theorem run_session_cons {around : Surroundings} {arguments : List String} {runs : List (List String)} {tree after : FileTree}
    {turn : Turn} {turns : List Turn} (first : (CommandLine.turn around arguments).run tree = (turn, turn.after))
    (others : (session around runs).run turn.after = (turns, after)) :
    (session around (arguments :: runs)).run tree = (turn :: turns, after) := by
  rw [session] at others ⊢
  rw [List.mapM_cons, FileTree.run_bind first, FileTree.run_bind others]
  rfl

/-- Every run of a session writes only what it may and leaves the rest alone, so a file that is not as it was before the
session has been written by one of its runs, which was allowed to. -/
theorem session_footprint (around : Surroundings) (runs : List (List String)) (tree : FileTree) :
    ∃ turns after, (session around runs).run tree = (turns, after) ∧ turns.map (·.arguments) = runs ∧
      (∀ turn ∈ turns, turn.before.workingDirectory = tree.workingDirectory ∧
        (∀ address, turn.Changes address → turn.MayWrite address) ∧ (turn.Refrains → turn.after = turn.before)) ∧
      ∀ address, after.file? address ≠ tree.file? address →
        ∃ turn ∈ turns, turn.Changes address ∧ turn.MayWrite address := by
  induction runs generalizing tree with
  | nil => exact ⟨[], tree, rfl, rfl, nofun, fun address changed => absurd rfl changed⟩
  | cons arguments runs ih =>
    obtain ⟨turn, rfl, rfl, keeps, first⟩ := run_turn around arguments tree
    obtain ⟨turns, after, others, rfl, each, changes⟩ := ih turn.after
    refine ⟨turn :: turns, after, run_session_cons first others, rfl, ?_, fun address changed => ?_⟩
    · refine List.forall_mem_cons.mpr ⟨⟨rfl, keeps.changes, keeps.refrains⟩, fun other listed => ?_⟩
      obtain ⟨home, rest⟩ := each other listed
      exact ⟨home.trans keeps.workingDirectory, rest⟩
    · by_cases kept : turn.after.file? address = turn.before.file? address
      · rw [← kept] at changed
        obtain ⟨other, listed, both⟩ := changes address changed
        exact ⟨other, List.mem_cons_of_mem _ listed, both⟩
      · exact ⟨turn, List.mem_cons_self, kept, keeps.changes address kept⟩

end CommandLine

end SwaggerSdk
