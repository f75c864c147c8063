import SwaggerSdk.Config
import SwaggerSdk.Document.Shape
import SwaggerSdk.Yaml.Core
import SwaggerSdk.Yaml.Lexer

/-!
# Documents in YAML

The nodes of a text as a data format. Any scalar can be read as a text. An empty plain scalar stands for an
empty record, table or list, and no list stands for a record. Following aliases is limited, so reading
takes no more than so many steps for each node of the text.
-/

namespace SwaggerSdk.Yaml

/-- A place in a text: the node there, and how many collections deep it may be. -/
structure Place where
  depth : Nat
  node : Node

def depthLimit : Nat := 128

def aliasesPerStep : Nat := 100

/-- Reading, as long as the text fits; the state is the number of aliases that have been followed. -/
abbrev Reading := StateT Nat Option

namespace Composed

variable (text : Composed)

def resolve (place : Place) : Reading Node :=
  match place.node with
  | .aliasOf number => do
    let followed := (← get) + 1
    set followed
    if aliasesPerStep * text.stepCount < followed then failure
    else
      let some node := text.target? number | failure
      return node
  | node => return node

def inside (place : Place) : Reading Nat :=
  if place.depth = 0 then failure else return place.depth - 1

def readText (place : Place) : Reading String := do
  match ← text.resolve place with
  | .scalar _ value _ => return value
  | _ => failure

def readFlag (place : Place) : Reading Bool := do
  match ← text.resolve place with
  | .scalar tag value style =>
    -- a tag makes a literal scalar a flag as well
    let mayBeFlag := style == .plain || (style == .literal && tag.bind coreType? == some .flag)
    let some flag := flag? value | failure
    if mayBeFlag then return flag else failure
  | _ => failure

/-- Whether a node is null, where that is allowed. A tag that says so has to be right. -/
def isAbsent (node : Node) : Reading Bool :=
  match node with
  | .scalar tag value style =>
    if style != .plain then return false
    else
      match tag with
      | none => return value.isEmpty || isNull value
      | some name =>
        if coreType? name != some .null then return false
        else if isNull value then return true
        else failure
  | _ => return false

def readOptional {α : Type} (read : Place → Reading α) (place : Place) : Reading (Option α) := do
  let node ← text.resolve place
  if ← isAbsent node then return none else return some (← read { place with node })

def isEmptyPlain : Node → Bool
  | .scalar _ value style => value.isEmpty && style == .plain
  | _ => false

def readList {α : Type} (read : Place → Reading α) (place : Place) : Reading (List α) := do
  match ← text.resolve place with
  | .sequence _ items => do
    let depth ← inside place
    items.mapM fun item => read ⟨depth, item⟩
  | node => if isEmptyPlain node then return [] else failure

def readPairs (place : Place) : Reading (List (Place × Place)) := do
  match ← text.resolve place with
  | .mapping _ pairs => do
    let depth ← inside place
    return pairs.map fun (key, value) => (⟨depth, key⟩, ⟨depth, value⟩)
  | node => if isEmptyPlain node then return [] else failure

def readTable {α : Type} (read : Place → Reading α) (place : Place) : Reading (Table String α) := do
  let entries ← (← text.readPairs place).mapM fun (key, value) => do
    let name ← text.readText key
    return (name, ← text.readOptional read value)
  return (Table.ofList entries).present

def readRecord {ρ : Type} (shape : Shape Reading Place ρ) (place : Place) : Reading ρ := do
  let fieldOf (key : Place) := do return shape.field? (← text.readText key)
  Shape.ofMembers fieldOf (fun _ => return ()) (fun _ => failure) [] shape.blank
    (← text.readPairs place)

def readScalar (tag : Option String) (value : String) (style : Style) : Reading Value := do
  let some value := scalarValue? tag value style | failure
  return value

/-- Reads a value of any kind, as deep as it may be. -/
def readValue : Nat → Node → Reading Value
  | 0, node => do
    match ← text.resolve ⟨0, node⟩ with
    | .scalar tag value style => readScalar tag value style
    | _ => failure
  | depth + 1, node => do
    match ← text.resolve ⟨depth + 1, node⟩ with
    | .scalar tag value style => readScalar tag value style
    | .sequence tag items =>
      if (ownTag? tag).isSome then failure else return .list (← items.mapM (readValue depth))
    | .mapping tag pairs =>
      if (ownTag? tag).isSome then failure
      else return .map (← pairs.mapM fun (key, value) => do
        return (← readValue depth key, ← readValue depth value))
    | .aliasOf _ => failure

def dataFormat : DataFormat Reading Place where
  text := text.readText
  flag := text.readFlag
  optional := text.readOptional
  list := text.readList
  table := text.readTable
  record := text.readRecord
  value place := text.readValue place.depth place.node
  noEntry := failure

def readAuthMode (place : Place) : Reading AuthMode := do
  match ← text.resolve place with
  | .scalar tag value style =>
    let name := match ownTag? tag with
      | some name => if style == .plain && (value.isEmpty || isNull value) then name else ""
      | none => value
    let some mode := AuthMode.ofName? name | failure
    return mode
  | _ => failure

def readConfig : Place → Reading Config := text.readRecord {
  label := "GeneratorConfig"
  blank := .default
  fields := [
    .nullable "input" (text.readOptional text.readText) fun input config => { config with input },
    .plain "output_dir" text.readText fun outputDir config => { config with outputDir },
    .plain "lang" text.readText fun lang config => { config with lang },
    .plain "sdk_name" text.readText fun sdkName config => { config with sdkName },
    .plain "base_url_var" text.readText fun baseUrlVar config => { config with baseUrlVar },
    .plain "auth_mode" text.readAuthMode fun authMode config => { config with authMode },
    .plain "token_fn" text.readText fun tokenFn config => { config with tokenFn }] }

end Composed

/-- Reads what a text describes; one in which nothing is written describes what an empty one does. -/
def read {α : Type} (reader : Composed → Place → Reading α) (text : String) : Option α := do
  let composed ← composeDocument (← tokens? text)
  let place : Place := ⟨depthLimit, composed.root.getD .empty⟩
  return ((← (reader composed place).run 0).1)

def readDocument (text : String) : Option Document :=
  read (fun composed => composed.dataFormat.document) text

def readConfig (text : String) : Option Config := read Composed.readConfig text

end SwaggerSdk.Yaml
