import SwaggerSdk.Proofs.Document.Fields
import SwaggerSdk.Yaml.Document

/-!
# What a configuration file sets

A configuration file may set each option or leave it open. What it sets can be looked up in the tree of its text, one
option at a time, and a configuration that is read from the file has what the file sets, and the defaults for the rest
(`Yaml.config_of_readConfig`).
-/

namespace SwaggerSdk

/-- The options that a configuration file sets. -/
structure Settings where
  input : Option String
  outputDir : Option String
  lang : Option String
  sdkName : Option String
  baseUrlVar : Option String
  authMode : Option AuthMode
  tokenFn : Option String

namespace Settings

def empty : Settings := ⟨none, none, none, none, none, none, none⟩

def config (settings : Settings) : Config where
  input := settings.input
  outputDir := settings.outputDir.getD "./sdk"
  lang := settings.lang.getD "ts"
  sdkName := settings.sdkName.getD "GeneratedSDK"
  baseUrlVar := settings.baseUrlVar.getD "baseApiUrl"
  authMode := settings.authMode.getD .bearer
  tokenFn := settings.tokenFn.getD "getToken"

theorem config_empty : empty.config = .default := rfl

end Settings

namespace Yaml

/-! ### Looking up -/

def Node.isNothing : Node → Bool
  | .scalar none value style => style == .plain && (value.isEmpty || isNull value)
  | .scalar (some tag) value style => style == .plain && coreType? tag == some .null && isNull value
  | _ => false

namespace Composed

variable (text : Composed)

def content? : Node → Option Node
  | .aliasOf number => text.target? number
  | node => some node

def textOf? (node : Node) : Option String :=
  match text.content? node with
  | some (.scalar _ value _) => some value
  | _ => none

def optionalTextOf? (node : Node) : Option String := do
  let node ← text.content? node
  if node.isNothing then none else text.textOf? node

def modeOf? (node : Node) : Option AuthMode :=
  match text.content? node with
  | some (.scalar tag value style) =>
    match ownTag? tag with
    | some name => if style == .plain && (value.isEmpty || isNull value) then AuthMode.ofName? name else none
    | none => AuthMode.ofName? value
  | _ => none

def pairsOf (node : Node) : List (Node × Node) :=
  match text.content? node with
  | some (.mapping _ pairs) => pairs
  | _ => []

/-- The value under a key. -/
def valueOf? (node : Node) (name : String) : Option Node := Shape.placeOf? text.textOf? name (text.pairsOf node)

def settings (node : Node) : Settings where
  input := (text.valueOf? node "input").bind text.optionalTextOf?
  outputDir := (text.valueOf? node "output_dir").bind text.textOf?
  lang := (text.valueOf? node "lang").bind text.textOf?
  sdkName := (text.valueOf? node "sdk_name").bind text.textOf?
  baseUrlVar := (text.valueOf? node "base_url_var").bind text.textOf?
  authMode := (text.valueOf? node "auth_mode").bind text.modeOf?
  tokenFn := (text.valueOf? node "token_fn").bind text.textOf?

end Composed

/-- What a text sets, if it is one in YAML. -/
def settings (text : String) : Settings :=
  match (tokens? text).bind composeDocument with
  | some composed => composed.settings (composed.root.getD .empty)
  | none => .empty

/-! ### Reading -/

theorem not_returns_failure {α : Type} (value : α) : ¬Returns (failure : Reading α) value := by
  rintro ⟨state, state', returned⟩
  cases returned

/-- What is looked up at a node is what reading returns there. -/
def Tells {α : Type} (value? : Node → Option α) (read : Place → Reading α) : Prop :=
  ∀ ⦃place value⦄, Returns (read place) value → value? place.node = some value

namespace Composed

variable {text : Composed} {place : Place}

theorem content?_of_resolve {node : Node} (resolves : Returns (text.resolve place) node) :
    text.content? place.node = some node := by
  obtain ⟨depth, tree⟩ := place
  cases tree with
  | aliasOf number =>
    obtain ⟨count, -, resolves⟩ := Returning.of_bind resolves
    obtain ⟨_, -, resolves⟩ := Returning.of_bind resolves
    simp only [content?]
    split at resolves
    · exact absurd resolves (not_returns_failure _)
    · split at resolves
      next found => rw [found, Returning.eq_of_pure resolves]
      next => exact absurd resolves (not_returns_failure _)
  | _ => exact congrArg some (Returning.eq_of_pure resolves)

theorem readText_tells (text : Composed) : Tells text.textOf? text.readText := by
  intro place value reads
  obtain ⟨node, resolves, reads⟩ := Returning.of_bind reads
  rw [textOf?, content?_of_resolve resolves]
  cases node with
  | scalar => exact congrArg some (Returning.eq_of_pure reads)
  | _ => exact absurd reads (not_returns_failure _)

theorem isAbsent_cases (node : Node) : isAbsent node = pure node.isNothing ∨ isAbsent node = failure := by
  cases node with
  | scalar tag value style =>
    by_cases plain : style = .plain
    · cases tag with
      | none => exact .inl (by simp [isAbsent, Node.isNothing, plain])
      | some tag =>
        by_cases saysNull : coreType? tag = some .null
        · cases null : isNull value with
          | true => exact .inl (by simp [isAbsent, Node.isNothing, plain, saysNull, null])
          | false => exact .inr (by simp [isAbsent, plain, saysNull, null])
        · have other : (coreType? tag == some .null) = false := beq_false_of_ne saysNull
          exact .inl (by simp [isAbsent, Node.isNothing, plain, saysNull, other])
    · have other : (style == .plain) = false := beq_false_of_ne plain
      exact .inl (by cases tag <;> simp [isAbsent, Node.isNothing, plain, other])
  | sequence | mapping | aliasOf => exact .inl rfl

theorem isNothing_of_isAbsent {node : Node} {absent : Bool} (judged : Returns (isAbsent node) absent) :
    node.isNothing = absent := by
  rcases isAbsent_cases node with same | fails
  · exact Returning.eq_of_pure (same ▸ judged)
  · exact absurd (fails ▸ judged) (not_returns_failure _)

theorem readOptional_tells (text : Composed) :
    Tells (fun node => some (text.optionalTextOf? node)) (text.readOptional text.readText) := by
  intro place value? reads
  obtain ⟨node, resolves, reads⟩ := Returning.of_bind reads
  obtain ⟨absent, judged, reads⟩ := Returning.of_bind reads
  simp only [optionalTextOf?, content?_of_resolve resolves, Option.bind_eq_bind, Option.bind_some,
    isNothing_of_isAbsent judged]
  cases absent with
  | true => exact congrArg some (Returning.eq_of_pure reads)
  | false =>
    obtain ⟨value, reads, made⟩ := Returning.of_bind reads
    rw [← Returning.eq_of_pure made]
    exact congrArg some (text.readText_tells reads)

theorem readAuthMode_tells (text : Composed) : Tells text.modeOf? text.readAuthMode := by
  intro place mode reads
  obtain ⟨node, resolves, reads⟩ := Returning.of_bind reads
  rw [modeOf?, content?_of_resolve resolves]
  cases node with
  | scalar tag value style =>
    simp only at reads ⊢
    split at reads
    next found =>
      rw [Returning.eq_of_pure reads] at found
      cases named : ownTag? tag with
      | none => simpa [named] using found
      | some name =>
        simp only [named] at found ⊢
        split at found
        next isNothing => rw [if_pos isNothing, found]
        next => cases found
    next => exact absurd reads (not_returns_failure _)
  | _ => exact absurd reads (not_returns_failure _)

theorem pairsOf_of_readPairs {pairs : List (Place × Place)} (reads : Returns (text.readPairs place) pairs) :
    ∃ depth, pairs = (text.pairsOf place.node).map fun pair => (⟨depth, pair.1⟩, ⟨depth, pair.2⟩) := by
  obtain ⟨node, resolves, reads⟩ := Returning.of_bind reads
  rw [pairsOf, content?_of_resolve resolves]
  cases node with
  | mapping tag pairs =>
    obtain ⟨depth, -, reads⟩ := Returning.of_bind reads
    exact ⟨depth, (Returning.eq_of_pure reads).symm⟩
  | scalar | sequence | aliasOf =>
    refine ⟨0, ?_⟩
    simp only at reads
    split at reads
    · exact (Returning.eq_of_pure reads).symm
    · exact absurd reads (not_returns_failure _)

theorem get_of_readRecord {ρ β : Type} {shape : Shape Reading Place ρ} (name : String) (get : ρ → β)
    {read : Place → Reading β} {value? : Node → Option β} (tells : Tells value? read) {record : ρ}
    (reads : Returns (text.readRecord shape place) record) (isField : (shape.field? name).isSome)
    (acts : ∀ field ∈ shape.fields, field.Acts name get read) :
    get record = ((text.valueOf? place.node name).bind value?).getD (get shape.blank) := by
  obtain ⟨pairs, listed, reads⟩ := Returning.of_bind reads
  obtain ⟨depth, rfl⟩ := pairsOf_of_readPairs listed
  have known : ∀ ⦃key : Place⦄ ⦃found⦄,
      Returns (do return shape.field? (← text.readText key) : Reading _) found →
        ∃ name, text.textOf? key.node = some name ∧ shape.field? name = found := by
    intro key found returned
    obtain ⟨name, named, returned⟩ := Returning.of_bind returned
    exact ⟨name, text.readText_tells named, Returning.eq_of_pure returned⟩
  have found := Shape.get_ofMembers isField acts known (fun _ => not_returns_failure) reads
  rw [Shape.placeOf?_map, ReadFrom.map_iff] at found
  rw [valueOf?]
  cases value : Shape.placeOf? text.textOf? name (text.pairsOf place.node) with
  | none =>
    rw [value] at found
    exact found
  | some node =>
    rw [value] at found
    rw [Option.bind_some, tells found, Option.getD_some]

theorem config_of_returns {config : Config} (reads : Returns (text.readConfig place) config) :
    config = (text.settings place.node).config := by
  have flat (node? : Option Node) : node?.bind text.optionalTextOf? =
      (node?.bind fun node => some (text.optionalTextOf? node)).getD none := by
    cases node? <;> rfl
  obtain ⟨input, outputDir, lang, sdkName, baseUrlVar, authMode, tokenFn⟩ := config
  rw [settings, Settings.config, flat, Config.mk.injEq]
  refine ⟨get_of_readRecord "input" Config.input text.readOptional_tells reads rfl ?_,
    get_of_readRecord "output_dir" Config.outputDir text.readText_tells reads rfl ?_,
    get_of_readRecord "lang" Config.lang text.readText_tells reads rfl ?_,
    get_of_readRecord "sdk_name" Config.sdkName text.readText_tells reads rfl ?_,
    get_of_readRecord "base_url_var" Config.baseUrlVar text.readText_tells reads rfl ?_,
    get_of_readRecord "auth_mode" Config.authMode text.readAuthMode_tells reads rfl ?_,
    get_of_readRecord "token_fn" Config.tokenFn text.readText_tells reads rfl ?_⟩
  -- an option has one field of its own, and the others leave it alone
  all_goals
    simp only [List.forall_mem_cons]
    refine ⟨?_, ?_, ?_, ?_, ?_, ?_, ?_, List.forall_mem_nil _⟩
  all_goals first | exact .own fun _ _ => rfl | exact .other (by decide) fun _ _ => rfl

end Composed

/-- A configuration has what its text sets, and the defaults for the rest. -/
theorem config_of_readConfig {text : String} {config : Config} (reads : readConfig text = some config) :
    config = (settings text).config := by
  obtain ⟨tokens, split, reads⟩ := Option.bind_eq_some_iff.mp reads
  obtain ⟨composed, composes, reads⟩ := Option.bind_eq_some_iff.mp reads
  obtain ⟨⟨_, count⟩, returned, same⟩ := Option.bind_eq_some_iff.mp reads
  cases same
  have found : (tokens? text).bind composeDocument = some composed := by rw [split, Option.bind_some, composes]
  rw [settings, found]
  exact Composed.config_of_returns ⟨0, count, returned⟩

end Yaml

end SwaggerSdk
