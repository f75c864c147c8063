import SwaggerSdk.CommandLine.Run
import SwaggerSdk.Proofs.Generation

/-!
# What a run does to the files

A run of the program reads its configuration and its document and changes nothing, and only a run whose checks have all
passed goes on to write. Whether that failed can be told from the outcome: `run_generate_of_resolve` says that a run either
has passed all checks, and then succeeds or fails to write, or has changed nothing and fails in another way.
-/

namespace SwaggerSdk

/-! ### Failing to write -/

/-- A run has ended because a directory or a file could not be written. -/
def Outcome.FailsToWrite (outcome : Outcome) : Prop :=
  outcome.exitCode = 1 ∧ "generate failed: failed to write ".toList <+: outcome.errors.toList

section Messages

open CommandLine

theorem CommandLine.toList_errors_failed (message : String) :
    (failed message).errors.toList = message.toList ++ ['\n'] := by
  simp [failed, lines]

theorem failsToWrite_iff (message : String) : (failed ("generate failed: " ++ message)).FailsToWrite ↔
    "failed to write ".toList <+: message.toList ++ ['\n'] := by
  have spelled : "generate failed: failed to write ".toList = "generate failed: ".toList ++ "failed to write ".toList := by
    decide
  rw [Outcome.FailsToWrite, toList_errors_failed, spelled, String.toList_append, List.append_assoc,
    List.prefix_append_right_inj]
  exact and_iff_right rfl

theorem not_failsToWrite_of_prefix {start message : String} (begins : start.toList <+: message.toList)
    (apart : ("failed to write ".toList.isPrefixOf start.toList || start.toList.isPrefixOf "failed to write ".toList) =
      false) : ¬(failed ("generate failed: " ++ message)).FailsToWrite := by
  rw [failsToWrite_iff]
  intro alike
  rw [Bool.or_eq_false_iff] at apart
  rcases List.prefix_or_prefix_of_prefix alike (begins.trans (List.prefix_append _ _)) with first | first
  · rw [List.isPrefixOf_iff_prefix.mpr first] at apart
    cases apart.1
  · rw [List.isPrefixOf_iff_prefix.mpr first] at apart
    cases apart.2

theorem prefix_append_text {start : List Char} {text : String} (begins : start <+: text.toList) (rest : String) :
    start <+: (text ++ rest).toList := by
  rw [String.toList_append]
  exact begins.trans (List.prefix_append _ _)

theorem failsToWrite_write (wording : Wording) (path : String) (fault : FileError) :
    (failed ("generate failed: " ++ (GenerateError.write path fault).message wording)).FailsToWrite := by
  have begins : "failed to write ".toList <+: ("failed to write " ++ path).toList :=
    prefix_append_text List.prefix_rfl path
  exact (failsToWrite_iff _).mpr ((prefix_append_text (prefix_append_text begins _) _).trans (List.prefix_append _ _))

theorem LoadError.not_failsToWrite (wording : Wording) (cause : LoadError) :
    ¬(failed ("generate failed: " ++ cause.message wording)).FailsToWrite := by
  cases cause with
  | file path fault =>
    have begins : "failed to read ".toList <+: ("failed to read " ++ path).toList :=
      prefix_append_text List.prefix_rfl path
    exact not_failsToWrite_of_prefix (prefix_append_text (prefix_append_text begins _) _) (by decide)
  | json fault => exact not_failsToWrite_of_prefix (prefix_append_text List.prefix_rfl _) (by decide)
  | yaml => exact not_failsToWrite_of_prefix (prefix_append_text List.prefix_rfl _) (by decide)
  | foreignVersion version =>
    exact not_failsToWrite_of_prefix (prefix_append_text (prefix_append_text List.prefix_rfl _) _) (by decide)

theorem GenerateError.not_failsToWrite (wording : Wording) {cause : GenerateError}
    (other : ∀ path fault, cause ≠ .write path fault) :
    ¬(failed ("generate failed: " ++ cause.message wording)).FailsToWrite := by
  cases cause with
  | unsupportedLanguage name =>
    exact not_failsToWrite_of_prefix (prefix_append_text (prefix_append_text List.prefix_rfl _) _) (by decide)
  | unusableName option value =>
    have begins : "invalid ".toList <+: ("invalid " ++ option ++ ": `" ++ value).toList :=
      prefix_append_text (prefix_append_text (prefix_append_text List.prefix_rfl _) _) _
    exact not_failsToWrite_of_prefix (prefix_append_text begins _) (by decide)
  | missingInput =>
    have begins : "missing --input".toList <+: (GenerateError.missingInput.message wording).toList := List.prefix_rfl
    exact not_failsToWrite_of_prefix begins (by decide)
  | load cause => exact cause.not_failsToWrite wording
  | emptyModel =>
    have begins : "no operations ".toList <+: ("no operations " ++ "found in swagger document").toList :=
      prefix_append_text List.prefix_rfl _
    exact not_failsToWrite_of_prefix begins (by decide)
  | write path fault => exact absurd rfl (other path fault)

end Messages

/-! ### Generating -/

namespace Config

variable {config : Config} {tree : FileTree} {language : Language}

def placesIn (config : Config) (tree : FileTree) (language : Language) : List Address :=
  Sdk.Piece.all.map fun piece => tree.address (config.pathOf language piece)

theorem Written.changesOnly {middle after : FileTree} {content : Sdk.Piece → String} {pieces : List Sdk.Piece}
    (kept : FileTree.ChangesOnly [] tree middle) (written : Written config language content pieces middle after) :
    FileTree.ChangesOnly (config.placesIn tree language) tree after := by
  refine (kept.trans written.step).mono fun address listed => ?_
  obtain ⟨piece, -, rfl⟩ := List.mem_map.mp listed
  exact List.mem_map.mpr ⟨piece, piece.mem_all, (kept.address_eq _).symm⟩

/-- A run that passes its checks goes on to write and changes nothing but its pieces; any other run changes nothing. -/
theorem run_generate_cases (config : Config) (tree : FileTree) :
    (∃ language document, config.Passes tree language document ∧ ∃ outcome after,
      (config.generate FileTree.access).run tree = (outcome, after) ∧
      FileTree.ChangesOnly (config.placesIn tree language) tree after ∧
      ∀ cause, outcome = .error cause → ∃ path fault, cause = .write path fault) ∨
    ((¬∃ language document, config.Passes tree language document) ∧
      ∃ cause, (config.generate FileTree.access).run tree = (.error cause, tree) ∧
        ∀ path fault, cause ≠ .write path fault) := by
  rcases config.run_generate tree with ⟨language, document, passes, middle, kept, ending⟩ | stopped
  · refine Or.inl ⟨language, document, passes, ?_⟩
    rcases ending with ⟨fault, ran⟩ | ⟨after, ran, complete⟩ | ⟨_, _, _, fault, after, -, ran, complete⟩
    · exact ⟨_, middle, ran, kept.mono (List.nil_subset _), fun cause failed => ⟨_, _, (Except.error.inj failed).symm⟩⟩
    · refine ⟨_, after, ran, complete.changesOnly kept, fun cause failed => ?_⟩
      cases failed
    · exact ⟨_, after, ran, complete.changesOnly kept, fun cause failed => ⟨_, _, (Except.error.inj failed).symm⟩⟩
  · exact Or.inr stopped

end Config

/-! ### The commands -/

namespace CommandLine

def reported (around : Surroundings) : Except GenerateError Report → Outcome
  | .error cause => failed ("generate failed: " ++ cause.message around.wording)
  | .ok report => generated around report

/-- Once the configuration is known, a run succeeds or fails to write if the checks of the configuration pass, and else
fails in another way and changes nothing. -/
theorem run_generate_of_resolve (around : Surroundings) {flags : Flags} {config : Config} {tree : FileTree}
    (resolved : (flags.resolve FileTree.access).run tree = (.ok config, tree)) (named : config.input.isNone = false) :
    ∃ result after, (config.generate FileTree.access).run tree = (result, after) ∧
      (generate FileTree.access around flags).run tree = (reported around result, after) ∧
      ((∃ language document, config.Passes tree language document ∧
          ((reported around result).exitCode = 0 ∨ (reported around result).FailsToWrite) ∧
          FileTree.ChangesOnly (config.placesIn tree language) tree after) ∨
        ((¬∃ language document, config.Passes tree language document) ∧ (reported around result).exitCode = 1 ∧
          ¬(reported around result).FailsToWrite ∧ after = tree)) := by
  have run {result : Except GenerateError Report} {after : FileTree}
      (generated : (config.generate FileTree.access).run tree = (result, after)) :
      (generate FileTree.access around flags).run tree = (reported around result, after) := by
    rw [generate, FileTree.run_bind resolved]
    simp only [named, Bool.false_eq_true, if_false]
    rw [FileTree.run_bind generated]
    cases result <;> rfl
  rcases config.run_generate_cases tree with
    ⟨language, document, passes, result, after, generated, step, writing⟩ | ⟨fails, cause, generated, other⟩
  · refine ⟨result, after, generated, run generated, Or.inl ⟨language, document, passes, ?_, step⟩⟩
    cases result with
    | ok report => exact Or.inl rfl
    | error cause =>
      obtain ⟨path, fault, rfl⟩ := writing cause rfl
      exact Or.inr (failsToWrite_write around.wording path fault)
  · exact ⟨.error cause, tree, generated, run generated,
      Or.inr ⟨fails, rfl, cause.not_failsToWrite around.wording other, rfl⟩⟩

end CommandLine

end SwaggerSdk
