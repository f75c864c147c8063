import SwaggerSdk.Generate
import SwaggerSdk.Proofs.Files.Footprint

/-!
# What generating does to the files

Nothing is written before everything is checked and rendered, and then each piece is written in full or not at
all. `generate_writes_pieces` says for each outcome of a run which files have changed: none if the run failed
before it wrote, the pieces up to the first that could not be written, or the five pieces and nothing else.
-/

namespace SwaggerSdk

/-- A path leads to the text of a document. -/
def FileTree.Holds (tree : FileTree) (path : String) (document : Document) : Prop :=
  ∃ text, tree.readText path = .ok text ∧ Document.ofText (.ofPath path) text = .ok document

theorem FileTree.Holds.unique {tree : FileTree} {path : String} {document document' : Document}
    (holds : tree.Holds path document) (holds' : tree.Holds path document') : document = document' := by
  obtain ⟨text, held, read⟩ := holds
  obtain ⟨text', held', read'⟩ := holds'
  rw [held, Except.ok.injEq] at held'
  subst held'
  rw [read] at read'
  exact Except.ok.inj read'

namespace Config

def pathOf (config : Config) (language : Language) (piece : Sdk.Piece) : String :=
  Path.join config.outputDir (piece.fileName language)

/-- What a run knows when it starts to write: the language, and a document that has operations. -/
structure Settles (config : Config) (tree : FileTree) (language : Language) (document : Document) : Prop where
  language : config.language = .ok language
  loaded : ∃ input text, config.input = some input ∧ tree.readText input = .ok text ∧
    Document.ofText (.ofPath input) text = .ok document
  nonempty : (Model.ofDocument document).isEmpty = false

variable {config : Config} {language : Language} {tree middle after : FileTree}

/-! ### The paths of the pieces -/

theorem isPlain_fileName (language : Language) (piece : Sdk.Piece) : Path.IsPlain (piece.fileName language) := by
  cases language <;> cases piece <;> decide

theorem fileName_inj {piece piece' : Sdk.Piece} (same : piece.fileName language = piece'.fileName language) :
    piece = piece' := by
  revert same
  cases language <;> cases piece <;> cases piece' <;> decide

theorem pathOf_ne_outputDir (piece : Sdk.Piece) : config.pathOf language piece ≠ config.outputDir :=
  Path.join_ne_base (isPlain_fileName language piece) _

theorem address_pathOf_inj {piece piece' : Sdk.Piece}
    (same : tree.address (config.pathOf language piece) = tree.address (config.pathOf language piece')) :
    piece = piece' :=
  fileName_inj (FileTree.address_join_inj (isPlain_fileName _ _) (isPlain_fileName _ _) same)

/-! ### Writing -/

/-- Some pieces have been written in full, and no other file has changed. -/
structure Written (config : Config) (language : Language) (content : Sdk.Piece → String)
    (pieces : List Sdk.Piece) (before after : FileTree) : Prop where
  step : FileTree.ChangesOnly (pieces.map fun piece => before.address (config.pathOf language piece)) before after
  holds : ∀ piece ∈ pieces, after.readText (config.pathOf language piece) = .ok (content piece)

variable {content : Sdk.Piece → String} {piece : Sdk.Piece} {pieces : List Sdk.Piece}

theorem Written.none (tree : FileTree) : Written config language content [] tree tree :=
  ⟨.refl _ tree, fun _ member => absurd member List.not_mem_nil⟩

theorem Written.cons (written : tree.writeText (config.pathOf language piece) (content piece) = .ok middle)
    (others : Written config language content pieces middle after) (fresh : piece ∉ pieces) :
    Written config language content (piece :: pieces) tree after := by
  have first := FileTree.changesOnly_writeText written
  have places : (pieces.map fun other => middle.address (config.pathOf language other)) =
      pieces.map fun other => tree.address (config.pathOf language other) :=
    List.map_congr_left fun other _ => first.address_eq _
  have step := others.step
  rw [places] at step
  refine ⟨first.trans step, fun other member => ?_⟩
  rcases List.mem_cons.mp member with rfl | member
  · refine others.step.readText_eq (fun elsewhere => ?_) (FileTree.readText_writeText written)
    obtain ⟨another, member, same⟩ := List.mem_map.mp elsewhere
    exact fresh (address_pathOf_inj same ▸ member)
  · exact others.holds other member

/-- Files that are no pieces are as they were before the directory was made. -/
theorem Written.file?_eq {address : Address} (kept : FileTree.ChangesOnly [] tree middle)
    (complete : Written config language content pieces middle after)
    (outside : ∀ piece ∈ pieces, address ≠ tree.address (config.pathOf language piece)) :
    after.file? address = tree.file? address := by
  refine (complete.step.files fun elsewhere => ?_).trans (kept.files List.not_mem_nil)
  obtain ⟨piece, member, rfl⟩ := List.mem_map.mp elsewhere
  exact outside piece member (kept.address_eq _)

/-- Files are written one after the other, all of them or those before the first that cannot be written. -/
theorem run_writeFiles (config : Config) (language : Language) (content : Sdk.Piece → String)
    (pieces : List Sdk.Piece) (distinct : pieces.Nodup) (tree : FileTree) :
    (∃ after, (writeFiles FileTree.access config.outputDir
        (pieces.map fun piece => ⟨piece.fileName language, content piece⟩)).run tree =
          (.ok (pieces.map (config.pathOf language)), after) ∧ Written config language content pieces tree after) ∨
    ∃ earlier piece later fault after, pieces = earlier ++ piece :: later ∧
      (writeFiles FileTree.access config.outputDir
        (pieces.map fun piece => ⟨piece.fileName language, content piece⟩)).run tree =
          (.error (.write (config.pathOf language piece) fault), after) ∧
      Written config language content earlier tree after := by
  induction pieces generalizing tree with
  | nil => exact Or.inl ⟨tree, rfl, .none tree⟩
  | cons piece pieces ih =>
    obtain ⟨fresh, distinct⟩ := List.nodup_cons.mp distinct
    rw [List.map_cons, writeFiles]
    cases written : tree.writeText (config.pathOf language piece) (content piece) with
    | error cause =>
      have first : (FileTree.access.writeText (config.pathOf language piece) (content piece)).run tree =
          (.error cause, tree) := by rw [FileTree.run_writeText, written]
      rw [← pathOf, FileTree.run_bind first]
      -- a write that fails changes nothing
      exact Or.inr ⟨[], piece, pieces, cause, tree, rfl, rfl, .none tree⟩
    | ok middle =>
      have first : (FileTree.access.writeText (config.pathOf language piece) (content piece)).run tree =
          (.ok (), middle) := by rw [FileTree.run_writeText, written]
      rw [← pathOf, FileTree.run_bind first]
      dsimp only
      rcases ih distinct middle with ⟨after, rest, complete⟩ | ⟨earlier, failing, later, fault, after, rfl, rest, done⟩
      · rw [FileTree.run_bind rest]
        exact Or.inl ⟨after, rfl, complete.cons written fresh⟩
      · rw [FileTree.run_bind rest]
        refine Or.inr ⟨piece :: earlier, failing, later, fault, after, rfl, rfl, done.cons written fun member => ?_⟩
        exact fresh (List.mem_append_left _ member)

/-! ### Before anything is written -/

theorem run_load_eq (path : String) (tree : FileTree) :
    (Document.load FileTree.access path).run tree =
      (match tree.readText path with
        | .ok text => Document.ofText (.ofPath path) text
        | .error cause => .error (.file path cause), tree) := by
  have first : (FileTree.access.readText path).run tree = (tree.readText path, tree) := rfl
  rw [Document.load, FileTree.run_bind first]
  cases tree.readText path <;> rfl

theorem run_load_cases (path : String) (tree : FileTree) :
    (∃ document, tree.Holds path document ∧ (Document.load FileTree.access path).run tree = (.ok document, tree)) ∨
    ((¬∃ document, tree.Holds path document) ∧
      ∃ cause, (Document.load FileTree.access path).run tree = (.error cause, tree)) := by
  rw [run_load_eq]
  cases held : tree.readText path with
  | error cause =>
    refine Or.inr ⟨fun ⟨document, text, held', _⟩ => ?_, _, rfl⟩
    rw [held] at held'
    cases held'
  | ok text =>
    dsimp only
    cases read : Document.ofText (.ofPath path) text with
    | error cause =>
      refine Or.inr ⟨fun ⟨document, text', held', read'⟩ => ?_, _, rfl⟩
      rw [held, Except.ok.injEq] at held'
      subst held'
      rw [read] at read'
      cases read'
    | ok document => exact Or.inl ⟨document, ⟨text, held, read⟩, rfl⟩

theorem checkName_cases (option value : String) :
    checkName option value = .ok () ∨ checkName option value = .error (.unusableName option value) := by
  unfold checkName
  split
  · exact Or.inl rfl
  · exact Or.inr rfl

theorem language_cases (config : Config) :
    (∃ language, config.language = .ok language) ∨
      config.language = .error (.unsupportedLanguage config.lang) := by
  unfold Config.language
  split
  · exact Or.inl ⟨_, rfl⟩
  · exact Or.inr rfl

/-- What the checks find, whichever of them comes first. -/
theorem check_cases (config : Config) :
    (∃ language input, config.check = .ok (language, input) ∧ config.language = .ok language ∧
      config.input = some input) ∨
    ∃ cause, config.check = .error cause ∧ ∀ path fault, cause ≠ .write path fault := by
  unfold check
  rcases language_cases config with ⟨language, chosen⟩ | unknown
  · rcases checkName_cases "--baseUrlVar" config.baseUrlVar with usable | unusable
    · rcases checkName_cases "--tokenFn" config.tokenFn with usable' | unusable
      · rw [chosen, usable, usable']
        by_cases same : config.baseUrlVar = config.tokenFn
        · exact Or.inr ⟨.unusableName "--tokenFn" config.tokenFn, by simp [same, bind, Except.bind]; rfl, nofun⟩
        · cases named : config.input with
          | none => exact Or.inr ⟨.missingInput, by simp [same, bind, Except.bind]; rfl, nofun⟩
          | some input => exact Or.inl ⟨language, input, by simp [same, bind, Except.bind]; rfl, rfl, rfl⟩
      · rw [chosen, usable, unusable]
        exact Or.inr ⟨_, rfl, nofun⟩
    · rw [chosen, unusable]
      exact Or.inr ⟨_, rfl, nofun⟩
  · rw [unknown]
    exact Or.inr ⟨_, rfl, nofun⟩

/-- All checks of a run pass: only writing can fail any more. -/
def Passes (config : Config) (tree : FileTree) (language : Language) (document : Document) : Prop :=
  ∃ input, config.check = .ok (language, input) ∧ tree.Holds input document ∧ (Model.ofDocument document).isEmpty = false

theorem exists_passes_iff (tree : FileTree) {input : String} (checked : config.check = .ok (language, input)) :
    (∃ language document, config.Passes tree language document) ↔
      ∃ document, tree.Holds input document ∧ (Model.ofDocument document).isEmpty = false := by
  constructor
  · rintro ⟨language', document, input', checked', holds, nonempty⟩
    rw [checked] at checked'
    cases checked'
    exact ⟨document, holds, nonempty⟩
  · rintro ⟨document, holds, nonempty⟩
    exact ⟨language, document, input, checked, holds, nonempty⟩

theorem of_check {input : String} (checked : config.check = .ok (language, input)) :
    config.language = .ok language ∧ config.input = some input := by
  rcases check_cases config with ⟨_, _, checked', chosen, named⟩ | ⟨cause, failing, -⟩
  · rw [checked] at checked'
    cases checked'
    exact ⟨chosen, named⟩
  · rw [checked] at failing
    cases failing

theorem Passes.settles {document : Document} (passes : config.Passes tree language document) :
    config.Settles tree language document := by
  obtain ⟨input, checked, ⟨text, held, read⟩, nonempty⟩ := passes
  obtain ⟨chosen, named⟩ := of_check checked
  exact ⟨chosen, ⟨input, text, named, held, read⟩, nonempty⟩

theorem Passes.unique {language' : Language} {document document' : Document}
    (passes : config.Passes tree language document) (passes' : config.Passes tree language' document') :
    language = language' ∧ document = document' := by
  obtain ⟨input, checked, holds, -⟩ := passes
  obtain ⟨input', checked', holds', -⟩ := passes'
  rw [checked] at checked'
  cases checked'
  exact ⟨rfl, holds.unique holds'⟩

theorem run_prepare_cases (config : Config) (tree : FileTree) :
    (∃ language document, config.Passes tree language document ∧ (config.prepare FileTree.access).run tree =
      (.ok (Sdk.files language config (Model.ofDocument document), (Model.ofDocument document).endpoints.length), tree)) ∨
    ((¬∃ language document, config.Passes tree language document) ∧
      ∃ cause, (config.prepare FileTree.access).run tree = (.error cause, tree) ∧
        ∀ path fault, cause ≠ .write path fault) := by
  unfold prepare
  rcases check_cases config with ⟨language, input, checked, -, -⟩ | ⟨cause, checked, other⟩
  · rw [exists_passes_iff tree checked, checked]
    dsimp only
    rcases run_load_cases input tree with ⟨document, holds, loaded⟩ | ⟨absent, cause, loaded⟩
    · rw [FileTree.run_bind loaded]
      cases nonempty : (Model.ofDocument document).isEmpty with
      | true =>
        simp only [nonempty, if_true]
        refine Or.inr ⟨fun ⟨document', holds', nonempty'⟩ => ?_, _, rfl, nofun⟩
        rw [← holds.unique holds', nonempty] at nonempty'
        cases nonempty'
      | false =>
        simp only [nonempty, Bool.false_eq_true, if_false]
        exact Or.inl ⟨language, document, ⟨input, checked, holds, nonempty⟩, rfl⟩
    · rw [FileTree.run_bind loaded]
      exact Or.inr ⟨fun ⟨document, holds, _⟩ => absent ⟨document, holds⟩, _, rfl, nofun⟩
  · rw [checked]
    refine Or.inr ⟨fun ⟨language, document, input, checked', _⟩ => ?_, cause, rfl, other⟩
    rw [checked] at checked'
    cases checked'

theorem Passes.run_prepare {document : Document} (passes : config.Passes tree language document) :
    (config.prepare FileTree.access).run tree =
      (.ok (Sdk.files language config (Model.ofDocument document), (Model.ofDocument document).endpoints.length),
        tree) := by
  rcases config.run_prepare_cases tree with ⟨language', document', passes', prepared⟩ | ⟨fails, -⟩
  · obtain ⟨rfl, rfl⟩ := passes.unique passes'
    exact prepared
  · exact absurd ⟨language, document, passes⟩ fails

theorem files_eq_map (language : Language) (config : Config) (model : Model) :
    Sdk.files language config model =
      Sdk.Piece.all.map fun piece => ⟨piece.fileName language, Sdk.render language config model piece⟩ := rfl

theorem nodup_pieces : Sdk.Piece.all.Nodup := by decide

/-! ### Outcomes -/

/-- How a run ends. If its checks pass it makes the directory and writes the pieces as far as it can; otherwise it changes
nothing. -/
theorem run_generate (config : Config) (tree : FileTree) :
    (∃ language document, config.Passes tree language document ∧ ∃ middle, FileTree.ChangesOnly [] tree middle ∧
      ((∃ fault, (config.generate FileTree.access).run tree = (.error (.write config.outputDir fault), middle)) ∨
        (∃ after, (config.generate FileTree.access).run tree =
            (.ok ⟨config.outputDir, Sdk.Piece.all.map (config.pathOf language),
              (Model.ofDocument document).endpoints.length⟩, after) ∧
          Written config language (Sdk.render language config (Model.ofDocument document)) Sdk.Piece.all middle after) ∨
        ∃ earlier piece later fault after, Sdk.Piece.all = earlier ++ piece :: later ∧
          (config.generate FileTree.access).run tree = (.error (.write (config.pathOf language piece) fault), after) ∧
          Written config language (Sdk.render language config (Model.ofDocument document)) earlier middle after)) ∨
    ((¬∃ language document, config.Passes tree language document) ∧
      ∃ cause, (config.generate FileTree.access).run tree = (.error cause, tree) ∧
        ∀ path fault, cause ≠ .write path fault) := by
  rw [generate]
  rcases config.run_prepare_cases tree with ⟨language, document, passes, prepared⟩ | ⟨fails, cause, prepared, other⟩
  · obtain ⟨made, middle, making, kept⟩ := FileTree.run_makeDirectories tree config.outputDir
    refine Or.inl ⟨language, document, passes, middle, kept, ?_⟩
    rw [FileTree.run_bind prepared]
    dsimp only
    rw [FileTree.run_bind making]
    cases made with
    | error fault => exact Or.inl ⟨fault, rfl⟩
    | ok =>
      dsimp only
      rw [files_eq_map]
      rcases run_writeFiles config language (Sdk.render language config (Model.ofDocument document)) Sdk.Piece.all
          nodup_pieces middle with ⟨after, writing, complete⟩ | ⟨earlier, piece, later, fault, after, all, writing, complete⟩
      · rw [FileTree.run_bind writing]
        exact Or.inr (Or.inl ⟨after, rfl, complete⟩)
      · rw [FileTree.run_bind writing]
        exact Or.inr (Or.inr ⟨earlier, piece, later, fault, after, all, rfl, complete⟩)
  · rw [FileTree.run_bind prepared]
    exact Or.inr ⟨fails, cause, rfl, other⟩

end Config

/-- What a run has changed when it ends. A run that fails before it writes has changed nothing, and one that
cannot make its directory no file. One that cannot write a piece has written those before it in full, and a
run that succeeds has written the five pieces; no other file has changed. -/
theorem generate_writes_pieces (config : Config) (tree : FileTree) :
    match (config.generate FileTree.access).run tree with
    | (.ok report, after) => ∃ language document, config.Settles tree language document ∧
      report.outputDir = config.outputDir ∧
      report.files = Sdk.Piece.all.map (config.pathOf language) ∧
      report.endpointCount = (Model.ofDocument document).endpoints.length ∧
      (∀ piece, after.readText (config.pathOf language piece) =
        .ok (Sdk.render language config (Model.ofDocument document) piece)) ∧
      ∀ address, (∀ piece, address ≠ tree.address (config.pathOf language piece)) →
        after.file? address = tree.file? address
    | (.error (.write path _), after) =>
      (path = config.outputDir ∧ ∀ address, after.file? address = tree.file? address) ∨
      ∃ language document earlier piece later, config.Settles tree language document ∧
        Sdk.Piece.all = earlier ++ piece :: later ∧
        path = config.pathOf language piece ∧ path ≠ config.outputDir ∧
        (∀ complete ∈ earlier, after.readText (config.pathOf language complete) =
          .ok (Sdk.render language config (Model.ofDocument document) complete)) ∧
        ∀ address, (∀ touched ∈ earlier ++ [piece], address ≠ tree.address (config.pathOf language touched)) →
          after.file? address = tree.file? address
    | (.error _, after) => after = tree := by
  rcases config.run_generate tree with ⟨language, document, passes, middle, kept, ending⟩ | ⟨-, cause, ran, other⟩
  · rcases ending with ⟨fault, ran⟩ | ⟨after, ran, complete⟩ | ⟨earlier, piece, later, fault, after, all, ran, complete⟩
    · rw [ran]
      exact Or.inl ⟨rfl, fun address => kept.files List.not_mem_nil⟩
    · rw [ran]
      refine ⟨language, document, passes.settles, rfl, rfl, rfl, ?_, fun address outside => ?_⟩
      · exact fun piece => complete.holds piece piece.mem_all
      · exact complete.file?_eq kept fun piece _ => outside piece
    · rw [ran]
      refine Or.inr ⟨language, document, earlier, piece, later, passes.settles, all, rfl,
        Config.pathOf_ne_outputDir piece, complete.holds, fun address outside => ?_⟩
      exact complete.file?_eq kept fun touched member => outside touched (List.mem_append_left _ member)
  · rw [ran]
    cases cause with
    | write path fault => exact absurd rfl (other path fault)
    | _ => rfl

end SwaggerSdk
