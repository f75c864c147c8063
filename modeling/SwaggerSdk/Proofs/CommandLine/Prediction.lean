import SwaggerSdk.CommandLine.Texts
import SwaggerSdk.Proofs.CommandLine.Runs
import SwaggerSdk.Proofs.Regeneration
import SwaggerSdk.Proofs.Sdk.FunctionList

/-!
# Validating predicts generating

Where no configuration lies around, `validate` says of every document whether an SDK would be generated from it, up to
failures to write, and how many operations it would have (`validate_predicts_generate`).
-/

namespace SwaggerSdk

/-! ### What `validate` reports -/

def countBehind? (label : String) (line : List Char) : Option Nat := do
  let digits ← line.dropPrefix? label.toList
  guard (!digits.isEmpty && digits.all Char.isDigit)
  return Nat.ofDigitChars 10 digits 0

/-- The number of operations that a run reports, on the last line but one. -/
def Outcome.operationCount? (outcome : Outcome) : Option Nat := do
  countBehind? "  Operations: " (← (Text.lines outcome.errors.toList).reverse[1]?)

theorem countBehind?_append (label : String) (count : Nat) :
    countBehind? label (label ++ toString count).toList = some count := by
  have digits : (Nat.toDigits 10 count).all Char.isDigit := List.all_eq_true.mpr fun c inside =>
    Nat.isDigit_of_mem_toDigits (by decide) (by decide) inside
  have present : (Nat.toDigits 10 count).isEmpty = false := by simp
  rw [countBehind?, String.toList_append, Sdk.dropPrefix?_append, Nat.toString_eq_ofList_toDigits, String.toList_ofList]
  simp only [Option.bind_eq_bind, Option.bind_some, digits, present, Nat.ofDigitChars_ten_toDigits]
  rfl

theorem Text.lines_append_cons (s t : List Char) : lines (s ++ '\n' :: t) = split (· == '\n') s ++ lines t := by
  have last : (split (· == '\n') s ++ split (· == '\n') t).getLast? = (split (· == '\n') t).getLast? := by
    rw [List.getLast?_append_of_ne_nil]
    exact split_ne_nil _ t
  rw [lines, lines, split_append_cons rfl, last]
  split
  · exact List.dropLast_append_of_ne_nil (split_ne_nil _ t)
  · rfl

namespace CommandLine

/-- What is printed last can be read back, whatever the lines before it hold. -/
theorem exists_lines_append (texts : List String) {ending : List String} (plain : ∀ text ∈ ending, '\n' ∉ text.toList) :
    ∃ before, Text.lines (lines (texts ++ ending)).toList = before ++ ending.map String.toList := by
  have spelled (texts : List String) : (lines texts).toList = (texts.map String.toList).flatMap (· ++ ['\n']) := by
    rw [lines, String.toList_join, List.flatMap_map, List.flatMap_map]
    exact List.flatMap_congr fun text _ => String.toList_append
  rw [spelled]
  induction texts with
  | nil => exact ⟨[], Text.lines_ended _ (List.forall_mem_map.mpr plain)⟩
  | cons text texts ih =>
    obtain ⟨before, read⟩ := ih
    refine ⟨Text.split (· == '\n') text.toList ++ before, ?_⟩
    rw [List.cons_append, List.map_cons, List.flatMap_cons, List.append_assoc, List.singleton_append,
      Text.lines_append_cons, read, List.append_assoc]

theorem operationCount?_validated (around : Surroundings) {document : Document}
    (nonempty : (Model.ofDocument document).isEmpty = false) :
    (validated around document).operationCount? = some (Model.ofDocument document).endpoints.length := by
  have digits : '\n' ∉ (toString (Model.ofDocument document).endpoints.length).toList := fun inside => by
    rw [Nat.toString_eq_ofList_toDigits, String.toList_ofList] at inside
    exact absurd (Nat.isDigit_of_mem_toDigits (by decide) (by decide) inside) (by decide)
  have plain : ∀ text ∈ ["  Operations: " ++ toString (Model.ofDocument document).endpoints.length,
      "Validation successful."], '\n' ∉ text.toList := by
    rw [List.forall_mem_cons, List.forall_mem_singleton, String.toList_append, List.mem_append, not_or]
    exact ⟨⟨by decide, digits⟩, by decide⟩
  obtain ⟨texts, outcome⟩ : ∃ texts, (validated around document).errors = lines (texts ++
      ["  Operations: " ++ toString (Model.ofDocument document).endpoints.length, "Validation successful."]) := by
    simp only [validated, nonempty, Bool.false_eq_true, if_false]
    exact ⟨[_, _, _], rfl⟩
  obtain ⟨before, read⟩ := exists_lines_append texts plain
  rw [Outcome.operationCount?, outcome, read, List.reverse_append]
  exact countBehind?_append _ _

theorem exitCode_validated (around : Surroundings) (document : Document) :
    (validated around document).exitCode = if (Model.ofDocument document).isEmpty then 1 else 0 := by
  rw [validated]
  split <;> rfl

/-- A run of `validate` succeeds if there are operations in the document, and it changes nothing. -/
theorem run_validate (around : Surroundings) (input : String) (tree : FileTree) :
    ∃ outcome, (validate FileTree.access around input).run tree = (outcome, tree) ∧
      (outcome.exitCode = 0 ↔ ∃ document, tree.Holds input document ∧ (Model.ofDocument document).isEmpty = false) ∧
      ∀ document, tree.Holds input document → (Model.ofDocument document).isEmpty = false →
        outcome.operationCount? = some (Model.ofDocument document).endpoints.length := by
  rw [validate]
  rcases Config.run_load_cases input tree with ⟨document, holds, loaded⟩ | ⟨absent, cause, loaded⟩
  · have alone : (∃ document, tree.Holds input document ∧ (Model.ofDocument document).isEmpty = false) ↔
        (Model.ofDocument document).isEmpty = false :=
      ⟨fun ⟨_, holds', nonempty⟩ => holds.unique holds' ▸ nonempty, fun nonempty => ⟨document, holds, nonempty⟩⟩
    refine ⟨validated around document, by rw [FileTree.run_bind loaded]; rfl, ?_, fun document' holds' nonempty => ?_⟩
    · rw [alone, exitCode_validated]
      cases (Model.ofDocument document).isEmpty <;> decide
    · rw [← holds.unique holds'] at nonempty ⊢
      exact operationCount?_validated around nonempty
  · refine ⟨failed ("error: " ++ cause.fullMessage around.wording), by rw [FileTree.run_bind loaded]; rfl,
      iff_of_false Nat.one_ne_zero ?_, fun document holds => absurd ⟨document, holds⟩ absent⟩
    rintro ⟨document, holds, -⟩
    exact absent ⟨document, holds⟩

/-! ### What both commands are asked for -/

theorem Grammar.read_input {ρ : Type} {grammar : Grammar ρ} {take : String → ρ → Except Stop ρ}
    (known : grammar.named? "input" = some (.value take)) (draft : ρ) (input : String) :
    grammar.read draft ["--input", input] = if isWord input then take input draft else .error .misuse := by
  have named : Argument.ofText "--input" = .named "input" none := by rfl
  rw [Grammar.read, named]
  simp only [known]
  rw [Grammar.read.readValue]
  split
  · cases taken : take input draft with
    | error stop => rfl
    | ok draft =>
      show Grammar.read grammar draft [] = .ok draft
      rw [Grammar.read]
  · rfl

end CommandLine

def Flags.ofInput (input : String) : Flags := { Flags.empty with input := some input }

def Config.ofInput (input : String) : Config := { Config.default with input := some input }

/-- Both commands take the same texts for the path of a document. -/
theorem CommandLine.read_alike (input : String) :
    if isWord input && !input.isEmpty then
      read ["validate", "--input", input] = .ok (.validate input) ∧
        read ["--input", input] = .ok (.generate (.ofInput input))
    else read ["validate", "--input", input] = .error .misuse ∧ read ["--input", input] = .error .misuse := by
  have validates : read ["validate", "--input", input] = (do
      let reading ← validateGrammar.read ⟨none, none⟩ ["--input", input]
      return .validate (← required reading.input)) := rfl
  have generates : read ["--input", input] = (generateGrammar.read .empty ["--input", input]).map .generate := rfl
  rw [validates, generates, Grammar.read_input rfl, Grammar.read_input rfl]
  cases isWord input with
  | false => exact ⟨rfl, rfl⟩
  | true => cases empty : input.isEmpty <;> simp only [Choice.path?, empty] <;> exact ⟨rfl, rfl⟩

theorem Config.check_ofInput (input : String) : (Config.ofInput input).check = .ok (.typescript, input) := by
  cbv

theorem Config.pathOf_ofInput (input : String) (piece : Sdk.Piece) :
    (ofInput input).pathOf .typescript piece = "./sdk/" ++ piece.fileName .typescript := by
  show Path.join "./sdk" (piece.fileName .typescript) = "./sdk/" ++ piece.fileName .typescript
  cases piece <;> decide

theorem Flags.run_resolve_ofInput {tree : FileTree} (unconfigured : tree.isPresent Config.fileName = false)
    (input : String) : ((Flags.ofInput input).resolve FileTree.access).run tree = (.ok (.ofInput input), tree) := by
  have absent : (FileTree.access.isPresent Config.fileName).run tree = (false, tree) := by
    rw [← unconfigured]
    rfl
  have loaded : (Config.load FileTree.access Config.fileName).run tree = (.ok none, tree) := by
    rw [Config.load, FileTree.run_bind absent]
    rfl
  have base : ((Flags.ofInput input).base FileTree.access).run tree = (.ok .default, tree) := by
    show (Config.load FileTree.access Config.fileName >>= _).run tree = _
    rw [FileTree.run_bind loaded]
    rfl
  rw [Flags.resolve, FileTree.run_bind base]
  rfl

/-- What a successful run has written can be read where it was written. -/
theorem Config.readText_of_run_generate {config : Config} {tree after : FileTree} {language : Language}
    {report : Report} {document : Document} (passes : config.Passes tree language document)
    (succeeds : (config.generate FileTree.access).run tree = (.ok report, after)) (piece : Sdk.Piece) :
    after.readText (config.pathOf language piece) =
      .ok (Sdk.render language config (Model.ofDocument document) piece) := by
  obtain ⟨language', document', passes', -, middle, -, written⟩ := written_of_run_generate succeeds
  obtain ⟨rfl, rfl⟩ := passes.unique passes'
  exact written.holds piece piece.mem_all

theorem Document.isIdentifier_names (document : Document) :
    ∀ endpoint ∈ (Model.ofDocument document).endpoints, Naming.isIdentifier endpoint.name := by
  intro endpoint listed
  obtain ⟨slot, -, rfl⟩ := document.mem_endpoints.mp listed
  exact Naming.isIdentifier_publishedName _ _ _ _

/-- What `validate` says of a document is what becomes of it: the run without a command succeeds or fails to write if
`validate` succeeds, and the table and the functions that it writes are as many as `validate` has counted. If `validate`
fails, that run fails too and changes nothing. -/
theorem validate_predicts_generate (around : Surroundings) (tree : FileTree) (input : String)
    (unconfigured : tree.isPresent Config.fileName = false) :
    ∃ validated generated after,
      (CommandLine.run FileTree.access around ["validate", "--input", input]).run tree = (validated, tree) ∧
      (CommandLine.run FileTree.access around ["--input", input]).run tree = (generated, after) ∧
      (validated.exitCode = 0 ↔ generated.exitCode = 0 ∨ generated.FailsToWrite) ∧
      (generated.exitCode = 0 → ∃ names routes functions,
        validated.operationCount? = some names.length ∧
        after.readText "./sdk/routes.ts" = .ok routes ∧ Sdk.tableNames? routes = some names ∧
        after.readText "./sdk/sdk.ts" = .ok functions ∧ Sdk.functionNames functions = names) ∧
      (validated.exitCode = 1 → generated.exitCode = 1 ∧ after = tree) := by
  have reads := CommandLine.read_alike input
  split at reads
  · rw [CommandLine.run, CommandLine.run, reads.1, reads.2]
    obtain ⟨validated, run, accepts, counts⟩ := CommandLine.run_validate around input tree
    obtain ⟨result, after, generated, run', fate⟩ :=
      CommandLine.run_generate_of_resolve around (Flags.run_resolve_ofInput unconfigured input) rfl
    have passes := Config.exists_passes_iff tree (Config.check_ofInput input)
    refine ⟨validated, CommandLine.reported around result, after, run, run', ?_, ?_, ?_⟩
    · rw [accepts, ← passes]
      rcases fate with ⟨language, document, passed, ending, -⟩ | ⟨stopped, code, other, -⟩
      · exact iff_of_true ⟨language, document, passed⟩ ending
      · rw [code]
        exact iff_of_false stopped fun either => either.elim (by decide) other
    · intro succeeds
      cases result with
      | error cause => cases succeeds
      | ok report =>
        rcases fate with ⟨language, document, passed, -⟩ | ⟨-, code, -⟩
        · obtain ⟨document, holds, nonempty⟩ := passes.mp ⟨language, document, passed⟩
          have written := Config.readText_of_run_generate
            ⟨input, Config.check_ofInput input, holds, nonempty⟩ generated
          simp only [Config.pathOf_ofInput] at written
          have routes : after.readText "./sdk/routes.ts" = _ := written .routes
          have functions : after.readText "./sdk/sdk.ts" = _ := written .functions
          have lawful := document.isIdentifier_names
          refine ⟨(Model.ofDocument document).names, _, _, ?_, routes, Sdk.tableNames?_routes _ _ lawful, functions,
            Sdk.functionNames_functions _ _ lawful⟩
          rw [counts document holds nonempty, Model.names, List.length_map]
        · rw [succeeds] at code
          cases code
    · intro fails
      rcases fate with ⟨language, document, passed, -⟩ | ⟨-, code, -, unchanged⟩
      · rw [accepts.mpr (passes.mp ⟨language, document, passed⟩)] at fails
        cases fails
      · exact ⟨code, unchanged⟩
  · rw [CommandLine.run, CommandLine.run, reads.1, reads.2]
    have code : (CommandLine.stopped around .misuse).exitCode = 2 := rfl
    refine ⟨_, _, tree, rfl, rfl, iff_of_false (by omega) ?_, fun done => absurd done (by omega),
      fun failed => absurd failed (by omega)⟩
    rintro (done | fails)
    · omega
    · have failed := fails.1
      omega

/-- A document that has operations, and room for an SDK next to it. -/
theorem validate_predicts_generate_orders :
    FileTree.orders.isPresent Config.fileName = false ∧
    ∃ validated generated after,
      (CommandLine.run FileTree.access (surroundings "/w") ["validate", "--input", "out/api.json"]).run .orders =
        (validated, .orders) ∧
      (CommandLine.run FileTree.access (surroundings "/w") ["--input", "out/api.json"]).run .orders = (generated, after) ∧
      generated.exitCode = 0 ∧ validated.exitCode = 0 ∧
      ∃ names routes functions, validated.operationCount? = some names.length ∧
        after.readText "./sdk/routes.ts" = .ok routes ∧ Sdk.tableNames? routes = some names ∧
        after.readText "./sdk/sdk.ts" = .ok functions ∧ Sdk.functionNames functions = names := by
  have unconfigured : FileTree.orders.isPresent Config.fileName = false := by
    have there : FileTree.orders.locate Config.fileName = .ok [['w'], Config.fileName.toList] :=
      FileTree.locate_eq_ok_iff.mpr ⟨FileTree.checkPath_eq_ok_iff.mpr (by decide), by decide⟩
    rw [Bool.eq_false_iff, Ne, FileTree.isPresent_iff]
    rintro ⟨found, node, located, held⟩
    rw [there] at located
    cases located
    cases held
  obtain ⟨document, read, nonempty⟩ := exists_ofText_orders
  let place : Address := [['w'], ['s', 'd', 'k']]
  have made : FileTree.orders.makeDirectory "./sdk" = .ok (FileTree.orders.set place .directory) := by
    have there : FileTree.orders.locate "./sdk" = .ok place :=
      FileTree.locate_eq_ok_iff.mpr ⟨FileTree.checkPath_eq_ok_iff.mpr (by decide), by decide⟩
    exact FileTree.makeDirectory_eq_ok_iff.mpr
      ⟨(FileTree.locate_eq_ok_iff.mp there).1, place, there, by decide, rfl⟩
  have admits (piece : Sdk.Piece) : (FileTree.orders.set place .directory).Admits
      ((Config.ofInput "out/api.json").pathOf .typescript piece) := by
    refine ⟨place ++ [(piece.fileName .typescript).toList], FileTree.locate_eq_ok_iff.mpr
      ⟨FileTree.checkPath_eq_ok_iff.mpr ?_, ?_⟩, ?_⟩
    all_goals cases piece <;> decide
  have passes : (Config.ofInput "out/api.json").Passes .orders .typescript document :=
    ⟨_, Config.check_ofInput _, ⟨_, FileTree.readText_orders, read⟩, nonempty⟩
  obtain ⟨report, left, succeeds⟩ :=
    Config.exists_run_generate passes (FileTree.run_makeDirectories_of_ok made) admits
  obtain ⟨result, after, generated, run, -⟩ := CommandLine.run_generate_of_resolve (surroundings "/w")
    (Flags.run_resolve_ofInput unconfigured "out/api.json") rfl
  rw [succeeds] at generated
  cases generated
  obtain ⟨validated, outcome, after, validates, generates, agrees, counts, -⟩ :=
    validate_predicts_generate (surroundings "/w") .orders "out/api.json" unconfigured
  have reads := CommandLine.read_alike "out/api.json"
  rw [if_pos (by decide)] at reads
  have done : outcome.exitCode = 0 := by
    rw [CommandLine.run, reads.2] at generates
    cases run.symm.trans generates
    rfl
  exact ⟨unconfigured, validated, outcome, after, validates, generates, done, agrees.mpr (.inl done), counts done⟩

end SwaggerSdk
