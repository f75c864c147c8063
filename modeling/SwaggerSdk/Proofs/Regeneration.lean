import SwaggerSdk.Proofs.Files.Repetition
import SwaggerSdk.Proofs.Generation
import SwaggerSdk.Proofs.Sdk.Names

/-!
# Generating again

A run reads one file and leaves behind what another run would write. `generate_again` says that a run which has succeeded
succeeds again with the same report and then changes nothing, if the document is not one of the files that it writes.
-/

namespace SwaggerSdk

namespace Config

variable {config : Config} {language : Language} {tree middle after : FileTree}

/-! ### Runs that succeed -/

theorem run_generate_of_steps {files : List Sdk.File} {count : Nat} {paths : List String}
    (prepared : (config.prepare FileTree.access).run tree = (.ok (files, count), tree))
    (made : (FileTree.access.makeDirectories config.outputDir).run tree = (.ok (), middle))
    (written : (writeFiles FileTree.access config.outputDir files).run middle = (.ok paths, after)) :
    (config.generate FileTree.access).run tree = (.ok ⟨config.outputDir, paths, count⟩, after) := by
  rw [generate, FileTree.run_bind prepared]
  dsimp only
  rw [FileTree.run_bind made]
  dsimp only
  rw [FileTree.run_bind written]
  rfl

theorem exists_run_writeFiles (content : Sdk.Piece → String) {pieces : List Sdk.Piece}
    (admits : ∀ piece ∈ pieces, tree.Admits (config.pathOf language piece)) :
    ∃ paths after, (writeFiles FileTree.access config.outputDir
      (pieces.map fun piece => ⟨piece.fileName language, content piece⟩)).run tree = (.ok paths, after) := by
  induction pieces generalizing tree with
  | nil => exact ⟨[], tree, rfl⟩
  | cons piece pieces ih =>
    obtain ⟨first, others⟩ := List.forall_mem_cons.mp admits
    obtain ⟨middle, written⟩ := first.exists_writeText (content piece)
    obtain ⟨paths, after, rest⟩ := ih fun other member => (others other member).writeText written
    have start : (FileTree.access.writeText (config.pathOf language piece) (content piece)).run tree =
        (.ok (), middle) := by rw [FileTree.run_writeText, written]
    rw [List.map_cons, writeFiles, ← pathOf, FileTree.run_bind start]
    dsimp only
    rw [FileTree.run_bind rest]
    exact ⟨_, _, rfl⟩

/-- A run succeeds if its checks pass and its files have room in the output directory. -/
theorem exists_run_generate {document : Document} (passes : config.Passes tree language document)
    (made : (FileTree.access.makeDirectories config.outputDir).run tree = (.ok (), middle))
    (admits : ∀ piece, middle.Admits (config.pathOf language piece)) :
    ∃ report after, (config.generate FileTree.access).run tree = (.ok report, after) := by
  have all : ∀ piece ∈ Sdk.Piece.all, middle.Admits (config.pathOf language piece) := fun piece _ => admits piece
  obtain ⟨paths, after, written⟩ :=
    exists_run_writeFiles (Sdk.render language config (Model.ofDocument document)) all
  exact ⟨_, after, run_generate_of_steps passes.run_prepare made written⟩

/-! ### What a successful run leaves behind -/

theorem written_of_run_generate {report : Report}
    (succeeds : (config.generate FileTree.access).run tree = (.ok report, after)) :
    ∃ language document, config.Passes tree language document ∧
      report = ⟨config.outputDir, Sdk.Piece.all.map (config.pathOf language),
        (Model.ofDocument document).endpoints.length⟩ ∧
      ∃ middle, FileTree.ChangesOnly [] tree middle ∧
        Written config language (Sdk.render language config (Model.ofDocument document)) Sdk.Piece.all middle after := by
  rcases config.run_generate tree with ⟨language, document, passes, middle, kept, ending⟩ | ⟨-, cause, ran, -⟩
  · rcases ending with ⟨fault, ran⟩ | ⟨last, ran, complete⟩ | ⟨_, _, _, fault, last, -, ran, -⟩
    · cases succeeds.symm.trans ran
    · cases succeeds.symm.trans ran
      exact ⟨language, document, passes, rfl, middle, kept, complete⟩
    · cases succeeds.symm.trans ran
  · cases succeeds.symm.trans ran

/-! ### Doing the steps again -/

theorem run_writeFiles_again {content : Sdk.Piece → String} {pieces : List Sdk.Piece}
    (holds : ∀ piece ∈ pieces, tree.readText (config.pathOf language piece) = .ok (content piece)) :
    (writeFiles FileTree.access config.outputDir (pieces.map fun piece => ⟨piece.fileName language, content piece⟩)).run
      tree = (.ok (pieces.map (config.pathOf language)), tree) := by
  induction pieces with
  | nil => rfl
  | cons piece pieces ih =>
    obtain ⟨held, others⟩ := List.forall_mem_cons.mp holds
    have first : (FileTree.access.writeText (config.pathOf language piece) (content piece)).run tree = (.ok (), tree) := by
      rw [FileTree.run_writeText, FileTree.writeText_of_readText held]
    rw [List.map_cons, writeFiles, ← pathOf, FileTree.run_bind first]
    dsimp only
    rw [FileTree.run_bind (ih others)]
    rfl

/-- The directory of a piece that can be read need not be made. -/
theorem run_makeDirectories_again {piece : Sdk.Piece} {text : String}
    (held : tree.readText (config.pathOf language piece) = .ok text) :
    (FileTree.access.makeDirectories config.outputDir).run tree = (.ok (), tree) := by
  obtain ⟨content, located, -, -⟩ := FileTree.exists_file_of_readText held
  refine FileTree.run_makeDirectories_of_isDirectory ?_
  by_cases here : config.outputDir = ""
  · exact .inl here
  · exact .inr (FileTree.isDirectory_of_locate_join (isPlain_fileName language piece) here located)

end Config

/-- A run that has succeeded succeeds again, with the same report, and leaves the tree as the first one left it. The
document must not be one of the pieces that are written. -/
theorem generate_again {config : Config} {tree after : FileTree} {report : Report}
    (succeeds : (config.generate FileTree.access).run tree = (.ok report, after))
    (apart : ∀ input language piece, config.input = some input → config.language = .ok language →
      tree.address input ≠ tree.address (config.pathOf language piece)) :
    (config.generate FileTree.access).run after = (.ok report, after) := by
  obtain ⟨language, document, ⟨input, checked, ⟨text, held, read⟩, nonempty⟩, rfl, middle, kept, complete⟩ :=
    Config.written_of_run_generate succeeds
  obtain ⟨chosen, named⟩ := Config.of_check checked
  -- the document is as it was, since the first run has written elsewhere
  have unread : after.readText input = .ok text := by
    refine (kept.trans complete.step).readText_eq (fun elsewhere => ?_) held
    obtain ⟨piece, -, same⟩ := List.mem_map.mp elsewhere
    exact apart input language piece named chosen ((kept.address_eq _).symm.trans same).symm
  have passes : config.Passes after language document := ⟨input, checked, ⟨text, unread, read⟩, nonempty⟩
  -- a piece that is there shows that the directory is
  have made := Config.run_makeDirectories_again (complete.holds .manifest Sdk.Piece.manifest.mem_all)
  exact Config.run_generate_of_steps passes.run_prepare made (Config.run_writeFiles_again complete.holds)

def ordersText : String :=
  "\x7b\"swagger\":\"2.0\",\"info\":\x7b\"title\":\"Shop\"\x7d,\"paths\":\x7b\"/orders\":\x7b\"get\":\x7b\x7d\x7d\x7d\x7d"

def FileTree.orders : FileTree where
  nodes := .ofList [
    ([['w']], .directory),
    ([['w'], ['o', 'u', 't']], .directory),
    ([['w'], ['o', 'u', 't'], "api.json".toList], .file ordersText.toUTF8)]
  workingDirectory := [['w']]

def Config.below : Config := { Config.default with input := some "out/api.json", outputDir := "out/sdk" }

theorem FileTree.readText_orders : orders.readText "out/api.json" = .ok ordersText := by
  have located : orders.locate "out/api.json" = .ok [['w'], ['o', 'u', 't'], "api.json".toList] :=
    locate_eq_ok_iff.mpr ⟨checkPath_eq_ok_iff.mpr (by decide +kernel), by decide +kernel⟩
  exact readText_of_file located rfl (fromUTF8?_toUTF8 _)

theorem exists_ofText_orders :
    ∃ document, Document.ofText .json ordersText = .ok document ∧ (Model.ofDocument document).isEmpty = false := by
  have slots : (Document.ofText .json ordersText).toOption.map (·.slots.isEmpty) = some false := by decide +kernel
  cases outcome : Document.ofText .json ordersText with
  | error cause =>
    rw [outcome] at slots
    cases slots
  | ok document =>
    rw [outcome] at slots
    exact ⟨document, rfl, (Document.isEmpty_model document).trans (Option.some.inj slots)⟩

/-- The first run makes the directory and the second one finds it there. -/
theorem generate_again_orders :
    ∃ report after, (Config.below.generate FileTree.access).run .orders = (.ok report, after) ∧
      (∀ input language piece, Config.below.input = some input → Config.below.language = .ok language →
        FileTree.orders.address input ≠ FileTree.orders.address (Config.below.pathOf language piece)) ∧
      (Config.below.generate FileTree.access).run after = (.ok report, after) := by
  have checked : Config.below.check = .ok (.typescript, "out/api.json") := by decide +kernel
  obtain ⟨document, read, nonempty⟩ := exists_ofText_orders
  let place : Address := [['w'], ['o', 'u', 't'], ['s', 'd', 'k']]
  have made : FileTree.orders.makeDirectory Config.below.outputDir = .ok (FileTree.orders.set place .directory) := by
    have there : FileTree.orders.locate "out/sdk" = .ok place :=
      FileTree.locate_eq_ok_iff.mpr ⟨FileTree.checkPath_eq_ok_iff.mpr (by decide +kernel), by decide +kernel⟩
    exact FileTree.makeDirectory_eq_ok_iff.mpr
      ⟨(FileTree.locate_eq_ok_iff.mp there).1, place, there, by decide +kernel, rfl⟩
  have admits (piece : Sdk.Piece) :
      (FileTree.orders.set place .directory).Admits (Config.below.pathOf .typescript piece) := by
    refine ⟨place ++ [(piece.fileName .typescript).toList], FileTree.locate_eq_ok_iff.mpr
      ⟨FileTree.checkPath_eq_ok_iff.mpr ?_, ?_⟩, ?_⟩
    all_goals cases piece <;> decide +kernel
  have apart (input : String) (language : Language) (piece : Sdk.Piece) (named : Config.below.input = some input)
      (chosen : Config.below.language = .ok language) :
      FileTree.orders.address input ≠ FileTree.orders.address (Config.below.pathOf language piece) := by
    cases named
    cases language <;> cases piece <;> decide +kernel
  have passes : Config.below.Passes .orders .typescript document :=
    ⟨_, checked, ⟨_, FileTree.readText_orders, read⟩, nonempty⟩
  obtain ⟨report, after, succeeds⟩ :=
    Config.exists_run_generate passes (FileTree.run_makeDirectories_of_ok made) admits
  exact ⟨report, after, succeeds, apart, generate_again succeeds apart⟩

end SwaggerSdk
