import Mathlib
import SwaggerSdk.Config.Flags
import SwaggerSdk.Proofs.Config.Settings
import SwaggerSdk.Proofs.Files.Repetition

/-!
# Flags over files over defaults

Each option of a run is settled by itself. A flag settles it as it is given. Else the configuration file does, and a path
in a file that a flag names is taken from the directory of that file. What neither of them sets holds by default, but for
the output directory: a file that is named moves its default too (`resolve_layered`).
-/

namespace SwaggerSdk

/-! ### Files -/

namespace FileTree

variable {tree : FileTree} {path text : String}

/-- What the file at a path sets; a file that cannot be read sets nothing. -/
def settings (tree : FileTree) (path : String) : Settings :=
  match tree.readText path with
  | .ok text => Yaml.settings text
  | .error _ => .empty

theorem settings_of_readText (held : tree.readText path = .ok text) : tree.settings path = Yaml.settings text := by
  rw [settings, held]

theorem isPresent_of_readText (held : tree.readText path = .ok text) : tree.isPresent path = true := by
  unfold isPresent
  cases found : tree.find path with
  | ok node => rfl
  | error cause =>
    rw [readText, found] at held
    cases held

theorem settings_of_not_isPresent (absent : tree.isPresent path = false) : tree.settings path = .empty := by
  cases held : tree.readText path with
  | error cause => rw [settings, held]
  | ok text =>
    rw [isPresent_of_readText held] at absent
    cases absent

end FileTree

namespace Config

variable {path text : String} {tree after : FileTree}

theorem run_loadFile_eq (path : String) (tree : FileTree) :
    (load FileTree.access path).run tree =
      (if tree.isPresent path then
        match tree.readText path with
        | .error cause => .error (.file path cause)
        | .ok text =>
          match Yaml.readConfig text with
          | some config => .ok (some config)
          | none => .error (.yaml path)
      else .ok none, tree) := by
  have asked : (FileTree.access.isPresent path).run tree = (tree.isPresent path, tree) := rfl
  have read : (FileTree.access.readText path).run tree = (tree.readText path, tree) := rfl
  rw [load, FileTree.run_bind asked]
  cases tree.isPresent path with
  | false => rfl
  | true =>
    simp only [Bool.not_true, Bool.false_eq_true, if_false, if_true]
    rw [FileTree.run_bind read]
    cases tree.readText path with
    | error cause => rfl
    | ok text => cases reads : Yaml.readConfig text <;> simp only [reads] <;> rfl

theorem run_load_of_readText {config : Config} (held : tree.readText path = .ok text)
    (reads : Yaml.readConfig text = some config) :
    (load FileTree.access path).run tree = (.ok (some config), tree) := by
  rw [run_loadFile_eq, if_pos (FileTree.isPresent_of_readText held), held]
  simp only [reads]

/-- A configuration that has been loaded has what its file sets, and the defaults where there is no file. -/
theorem settings_of_run_load {config? : Option Config}
    (loaded : (load FileTree.access path).run tree = (.ok config?, after)) :
    config?.getD .default = (tree.settings path).config := by
  rw [run_loadFile_eq, Prod.mk.injEq] at loaded
  obtain ⟨loaded, rfl⟩ := loaded
  split at loaded
  · split at loaded
    next => cases loaded
    next text held =>
      split at loaded
      next config reads =>
        cases loaded
        rw [FileTree.settings_of_readText held]
        exact Yaml.config_of_readConfig reads
      next => cases loaded
  next absent =>
    cases loaded
    rw [FileTree.settings_of_not_isPresent (Bool.not_eq_true _ ▸ absent), Settings.config_empty, Option.getD_none]

theorem rebase_empty (config : Config) : config.rebase "" = config := by
  have stays : Path.join "" = id := funext Path.join_empty
  rw [rebase, stays, Option.map_id]
  rfl

end Config

/-! ### Layers -/

namespace Flags

variable {flags : Flags} {tree after : FileTree} {config : Config}

def directory (flags : Flags) : String := (flags.configFile.bind Path.parent?).getD ""

/-- Where a path of the configuration file leads: from the directory of a file that is named, else as it is written. -/
def placed (flags : Flags) (path : String) : String :=
  match flags.configFile with
  | some _ => Path.join flags.directory path
  | none => path

theorem placed_eq (flags : Flags) : flags.placed = Path.join flags.directory := by
  funext path
  unfold placed directory
  cases flags.configFile with
  | some file => rfl
  | none => exact (Path.join_empty path).symm

/-- What the configuration file of a run sets: the file that a flag names, else the usual one. -/
def settings (flags : Flags) (tree : FileTree) : Settings := tree.settings (flags.configFile.getD Config.fileName)

/-- What lies below the flags is what the file sets, with its paths in place, and the defaults for the rest. -/
theorem base_eq_rebase (based : (flags.base FileTree.access).run tree = (.ok config, after)) :
    config = (flags.settings tree).config.rebase flags.directory := by
  have load (path : String) : ∃ result middle, (Config.load FileTree.access path).run tree = (result, middle) :=
    ⟨_, _, rfl⟩
  unfold base at based
  unfold settings directory
  cases named : flags.configFile with
  | some file =>
    obtain ⟨result, middle, loaded⟩ := load file
    simp only [named, Config.loadNamed] at based
    rw [FileTree.run_bind loaded] at based
    match result with
    | .error cause => cases based
    | .ok none => cases based
    | .ok (some found) =>
      cases based
      exact congrArg _ (Config.settings_of_run_load loaded)
  | none =>
    obtain ⟨result, middle, loaded⟩ := load Config.fileName
    simp only [named] at based
    rw [FileTree.run_bind loaded] at based
    cases result with
    | error cause => cases based
    | ok found? =>
      cases based
      -- the usual file lies in the directory from which paths lead anyway
      exact (Config.settings_of_run_load loaded).trans (Config.rebase_empty _).symm

/-- Every option is settled by itself: by its flag, else by the file, else by default. -/
structure Layered (flags : Flags) (settings : Settings) (config : Config) : Prop where
  input : config.input = flags.input.or (settings.input.map flags.placed)
  outputDir : config.outputDir = flags.outputDir.getD (flags.placed (settings.outputDir.getD "./sdk"))
  lang : config.lang = flags.lang.getD (settings.lang.getD "ts")
  sdkName : config.sdkName = flags.sdkName.getD (settings.sdkName.getD "GeneratedSDK")
  baseUrlVar : config.baseUrlVar = flags.baseUrlVar.getD (settings.baseUrlVar.getD "baseApiUrl")
  authMode : config.authMode = flags.authMode.getD (settings.authMode.getD .bearer)
  tokenFn : config.tokenFn = flags.tokenFn.getD (settings.tokenFn.getD "getToken")

theorem layered_override (flags : Flags) (settings : Settings) :
    flags.Layered settings (flags.override (settings.config.rebase flags.directory)) := by
  refine ⟨?_, ?_, rfl, rfl, rfl, rfl, rfl⟩
  · rw [placed_eq]
    rfl
  · rw [placed_eq]
    rfl

/-- Where a configuration is found, each option of it is settled by itself. The output directory is the documented one
if a flag or the file sets it, or if no file in another directory is named. -/
theorem resolve_layered (resolved : ((flags.resolve FileTree.access).run tree).1 = .ok config) :
    flags.Layered (flags.settings tree) config ∧
      (config.outputDir = flags.outputDir.getD (((flags.settings tree).outputDir.map flags.placed).getD "./sdk") ↔
        flags.outputDir.isSome ∨ (flags.settings tree).outputDir.isSome ∨ flags.directory = "") := by
  obtain ⟨result, after, based⟩ : ∃ result after, (flags.base FileTree.access).run tree = (result, after) := ⟨_, _, rfl⟩
  rw [resolve, FileTree.run_bind based] at resolved
  cases result with
  | error cause => cases resolved
  | ok found =>
    cases resolved
    rw [base_eq_rebase based]
    have layered := flags.layered_override (flags.settings tree)
    have moved : Path.join flags.directory "./sdk" = "./sdk" ↔ flags.directory = "" :=
      Path.join_eq_right_iff (by decide)
    refine ⟨layered, ?_⟩
    rw [layered.outputDir]
    cases flags.outputDir with
    | some given => simp
    | none =>
      cases (flags.settings tree).outputDir with
      | some path => simp
      | none => simp [placed_eq, moved]

theorem run_resolve_of_readText {file text : String} (named : flags.configFile = some file) (held : tree.readText file = .ok text)
    (reads : Yaml.readConfig text = some config) :
    (flags.resolve FileTree.access).run tree = (.ok (flags.override (config.rebase flags.directory)), tree) := by
  have based : (flags.base FileTree.access).run tree = (.ok (config.rebase flags.directory), tree) := by
    simp only [base, named, Config.loadNamed]
    rw [FileTree.run_bind (Config.run_load_of_readText held reads), directory, named]
    rfl
  rw [resolve, FileTree.run_bind based]
  rfl

end Flags

/-! ### A file in another directory -/

def Config.openText : String := "input: api.json\nlang: js\n"

def FileTree.configured : FileTree where
  nodes := .ofList [
    ([['w']], .directory),
    ([['w'], "conf".toList], .directory),
    ([['w'], "conf".toList, "sdkgen.yaml".toList], .file Config.openText.toUTF8)]
  workingDirectory := [['w']]

theorem FileTree.readText_configured : configured.readText "conf/sdkgen.yaml" = .ok Config.openText := by
  have located : configured.locate "conf/sdkgen.yaml" = .ok [['w'], "conf".toList, "sdkgen.yaml".toList] :=
    locate_eq_ok_iff.mpr ⟨checkPath_eq_ok_iff.mpr (by decide +kernel), by decide +kernel⟩
  exact readText_of_file located rfl (fromUTF8?_toUTF8 _)

theorem Yaml.settings_openText :
    Yaml.settings Config.openText = { Settings.empty with input := some "api.json", lang := some "js" } := by
  cbv

theorem Yaml.readConfig_openText :
    readConfig Config.openText = some { Config.default with input := some "api.json", lang := "js" } := by
  cbv

theorem Flags.settings_configured {flags : Flags} (named : flags.configFile = some "conf/sdkgen.yaml") :
    flags.settings .configured = { Settings.empty with input := some "api.json", lang := some "js" } := by
  rw [settings, named]
  exact (FileTree.settings_of_readText FileTree.readText_configured).trans Yaml.settings_openText

theorem Flags.resolve_layered_configured :
    let flags : Flags := { empty with configFile := some "conf/sdkgen.yaml", outputDir := some "out", sdkName := some "Shop" }
    ∃ config, ((flags.resolve FileTree.access).run .configured).1 = .ok config ∧
      flags.Layered (flags.settings .configured) config ∧
      config.outputDir = flags.outputDir.getD (((flags.settings .configured).outputDir.map flags.placed).getD "./sdk") ∧
      config.input = some "conf/api.json" ∧ config.lang = "js" ∧ config.sdkName = "Shop" ∧ config.tokenFn = "getToken" := by
  intro flags
  have run := run_resolve_of_readText (show flags.configFile = some _ from rfl) FileTree.readText_configured
    Yaml.readConfig_openText
  have resolved := congrArg Prod.fst run
  obtain ⟨layered, documented⟩ := resolve_layered resolved
  have input := layered.input
  have lang := layered.lang
  have tokenFn := layered.tokenFn
  rw [settings_configured rfl] at input lang tokenFn
  exact ⟨_, resolved, layered, documented.mpr (.inl rfl), input.trans (by decide +kernel), lang, layered.sdkName, tokenFn⟩

/-- The default of the output directory moves with the file that is named, though that does not set it. -/
theorem Flags.resolve_moves_default :
    let flags : Flags := { empty with configFile := some "conf/sdkgen.yaml" }
    ∃ config, ((flags.resolve FileTree.access).run .configured).1 = .ok config ∧
      flags.outputDir = none ∧ (flags.settings .configured).outputDir = none ∧ config.outputDir = "conf/./sdk" ∧
      config.outputDir ≠ flags.outputDir.getD (((flags.settings .configured).outputDir.map flags.placed).getD "./sdk") := by
  intro flags
  have run := run_resolve_of_readText (show flags.configFile = some _ from rfl) FileTree.readText_configured
    Yaml.readConfig_openText
  rw [settings_configured rfl, run]
  exact ⟨_, rfl, rfl, rfl, by decide +kernel, by decide +kernel⟩

end SwaggerSdk
