import SwaggerSdk.Proofs.Json.Strings
import SwaggerSdk.Proofs.Sdk.Exports

/-!
# The table of routes can be read back

A line of the table gives the name of an endpoint, its method and its path, and its strings may hold any text. A reader
that knows nothing but the layout gets all endpoints back, in the order of the model (`routeTable_faithful`). So the
tables of two models are the same only if their routes are.
-/

namespace SwaggerSdk.Sdk

/-! ### The reader -/

/-- Reads a literal, and returns what stands behind it. -/
def readLiteral? : List Char → Option (String × List Char)
  | '"' :: s => (Json.readString s).1.read.toOption.map (·, (Json.readString s).2)
  | _ => none

/-- The name and the route on a line of the table. -/
def readRoute? (line : List Char) : Option (String × Route) := do
  let line ← line.dropPrefix? "  ".toList
  let name := line.takeWhile (· != ':')
  let rest ← (line.dropWhile (· != ':')).dropPrefix? ": \x7b method: ".toList
  let (method, rest) ← readLiteral? rest
  let rest ← rest.dropPrefix? ", uri: ".toList
  let (path, rest) ← readLiteral? rest
  guard (rest = " \x7d,".toList)
  let method ← Method.ofName? method
  return (String.ofList name, ⟨method, path⟩)

def tableHead : String := "export const routes = \x7b"

/-- The lines between the head of the table and the line that closes it, if both are there. -/
def tableLines? (text : String) : Option (List (List Char)) :=
  match (Text.lines text.toList).dropWhile (· != tableHead.toList) with
  | [] => none
  | _ :: lines =>
    if lines.any (·.head? == some '\x7d') then some (lines.takeWhile (·.head? != some '\x7d')) else none

theorem dropPrefix?_append (s t : List Char) : (s ++ t).dropPrefix? s = some t :=
  List.dropPrefix?_eq_some_iff.mpr ⟨s, rfl, by simp⟩

theorem readLiteral?_literal (text : String) (rest : List Char) :
    readLiteral? ((literal text).toList ++ rest) = some (text, rest) := by
  have string := Json.readString_quoted text.toList rest
  have spelled : (literal text).toList ++ rest = '"' :: (text.toList.flatMap Json.escapeChar ++ '"' :: rest) := by
    simp [literal, Json.quote, Json.quoteChars]
  rw [spelled, readLiteral?, string]
  exact congrArg (·.toOption.map (·, rest)) (Json.read_ofText text)

/-! ### Lines -/

section Lines

variable {endpoint : Endpoint}

def entryLine (endpoint : Endpoint) : String := "  " ++ routeLine endpoint

theorem toList_entryLine (endpoint : Endpoint) :
    (entryLine endpoint).toList = "  ".toList ++ (endpoint.name.toList ++ (": \x7b method: ".toList ++
      ((literal endpoint.route.method.name).toList ++ (", uri: ".toList ++
        ((literal endpoint.route.path).toList ++ " \x7d,".toList))))) := by
  have opening : ": \x7b method: ".toList = ": ".toList ++ "\x7b ".toList ++ "method: ".toList := by decide
  have separator : ", uri: ".toList = ", ".toList ++ "uri: ".toList := by decide
  have closing : " \x7d,".toList = " \x7d".toList ++ ",".toList := by decide
  rw [opening, separator, closing]
  unfold entryLine routeLine inline
  simp only [String.toList_append, String.toList_intercalate, List.map_cons, List.map_nil, List.intercalate_cons_cons,
    List.intercalate_singleton, List.append_assoc]

theorem readRoute?_entryLine (named : ':' ∉ endpoint.name.toList) :
    readRoute? (entryLine endpoint).toList = some (endpoint.name, endpoint.route) := by
  rw [toList_entryLine]
  generalize behind : ((literal endpoint.route.method.name).toList ++ _) = rest
  have plain : ∀ c ∈ endpoint.name.toList, (c != ':') = true := fun c inside =>
    bne_iff_ne.mpr fun same => named (same ▸ inside)
  -- the colon behind the name is the first one, whatever the strings hold
  have name : (endpoint.name.toList ++ (": \x7b method: ".toList ++ rest)).takeWhile (· != ':') = endpoint.name.toList := by
    rw [List.takeWhile_append_of_pos plain]
    exact List.append_nil _
  have value : (endpoint.name.toList ++ (": \x7b method: ".toList ++ rest)).dropWhile (· != ':') =
      ": \x7b method: ".toList ++ rest := List.dropWhile_append_of_pos plain
  simp only [readRoute?, dropPrefix?_append, Option.bind_eq_bind, Option.bind_some, name, value]
  subst behind
  simp only [readLiteral?_literal, dropPrefix?_append, Option.bind_some, Method.ofName?_name, String.ofList_toList]
  rfl

theorem notMem_entryLine (named : '\n' ∉ endpoint.name.toList) : '\n' ∉ (entryLine endpoint).toList := by
  have quoted (text : String) : '\n' ∉ (literal text).toList := fun inside => by
    rw [literal, Json.quote, String.toList_ofList] at inside
    exact Json.visible_of_mem_quoteChars inside (by decide)
  rw [toList_entryLine]
  simp only [List.mem_append, not_or]
  exact ⟨by decide, named, by decide, quoted _, by decide, quoted _, by decide⟩

end Lines

/-! ### The whole table -/

section Table

variable {language : Language} {config : Config} {model : Model}

def tableEnd : Language → String
  | .typescript => "\x7d as const;"
  | .javascript => "\x7d;"

theorem routeTable_eq (language : Language) (model : Model) :
    routeTable language model = tableHead :: (model.endpoints.map entryLine ++ [tableEnd language]) := by
  have head : tableHead = "export const routes =" ++ " \x7b" := by decide
  have ending : tableEnd language = "\x7d" ++ match language with
      | .typescript => " as const;"
      | .javascript => ";" := by
    cases language <;> decide
  have entries : model.endpoints.map entryLine = Lines.indent (model.endpoints.map routeLine) := by
    rw [Lines.indent, List.map_map]
    rfl
  rw [head, ending, entries]
  rfl

theorem notMem_routeAccess (language : Language) : ∀ line ∈ routeAccess language, '\n' ∉ line.toList := by
  cases language <;> decide

theorem lines_routes (named : ∀ endpoint ∈ model.endpoints, '\n' ∉ endpoint.name.toList) :
    Text.lines (render language config model .routes).toList =
      [(banner config).toList, []] ++ tableHead.toList :: (model.endpoints.map (fun endpoint =>
        (entryLine endpoint).toList) ++ (tableEnd language).toList :: (routeAccess language).map String.toList) := by
  have plain : ∀ line ∈ routes language config model, '\n' ∉ line.toList := by
    simp only [routes, routeTable_eq, opening, List.forall_mem_append, List.forall_mem_cons, List.forall_mem_map]
    refine ⟨⟨⟨notMem_banner config, by decide, List.forall_mem_nil _⟩, by decide, ?_, ?_, List.forall_mem_nil _⟩,
      notMem_routeAccess language⟩
    · exact fun endpoint listed => notMem_entryLine (named endpoint listed)
    · cases language <;> decide
  rw [render, Text.lines_toText _ plain, routes, routeTable_eq, opening]
  simp [Function.comp_def]

theorem tableLines?_routes (named : ∀ endpoint ∈ model.endpoints, '\n' ∉ endpoint.name.toList) :
    tableLines? (render language config model .routes) =
      some (model.endpoints.map fun endpoint => (entryLine endpoint).toList) := by
  have before : ∀ line ∈ [(banner config).toList, []], (line != tableHead.toList) = true := by
    rw [banner_eq, String.toList_append]
    simp only [List.forall_mem_cons, bne_iff_ne]
    exact ⟨nofun, nofun, List.forall_mem_nil _⟩
  have closing : (tableEnd language).toList.head? = some '\x7d' := by cases language <;> rfl
  -- a line of an endpoint starts with a blank, so the table goes on until it is closed
  have entries : ∀ line ∈ model.endpoints.map (fun endpoint => (entryLine endpoint).toList),
      (line.head? != some '\x7d') = true := by
    intro line listed
    obtain ⟨endpoint, -, rfl⟩ := List.mem_map.mp listed
    rw [toList_entryLine]
    rfl
  unfold tableLines?
  rw [lines_routes named, List.dropWhile_append_of_pos before, List.dropWhile_cons_of_neg (by simp)]
  simp only
  rw [if_pos, List.takeWhile_append_of_pos entries, List.takeWhile_cons_of_neg (by simp [closing]), List.append_nil]
  exact List.any_eq_true.mpr ⟨_, List.mem_append_right _ List.mem_cons_self, by simp [closing]⟩

def namedRoutes (model : Model) : List (String × Route) :=
  model.endpoints.map fun endpoint => (endpoint.name, endpoint.route)

theorem exists_tableLines (language : Language) (config : Config)
    (lawful : ∀ endpoint ∈ model.endpoints, Naming.isIdentifier endpoint.name) :
    ∃ lines, tableLines? (render language config model .routes) = some lines ∧
      lines.map readRoute? = (namedRoutes model).map some := by
  have plain {endpoint : Endpoint} (listed : endpoint ∈ model.endpoints) {c : Char} (other : Text.isWordChar c = false) :
      c ∉ endpoint.name.toList := by
    intro inside
    rw [(isListable_of_isIdentifier (lawful endpoint listed)).letters c inside] at other
    cases other
  refine ⟨_, tableLines?_routes fun endpoint listed => plain listed (by decide), ?_⟩
  rw [namedRoutes, List.map_map, List.map_map]
  exact List.map_congr_left fun endpoint listed => readRoute?_entryLine (plain listed (by decide))

def tableNames? (text : String) : Option (List String) := do
  let routes ← (← tableLines? text).mapM readRoute?
  return routes.map (·.1)

theorem tableNames?_routes (language : Language) (config : Config)
    (lawful : ∀ endpoint ∈ model.endpoints, Naming.isIdentifier endpoint.name) :
    tableNames? (render language config model .routes) = some model.names := by
  obtain ⟨lines, found, read⟩ := exists_tableLines language config lawful
  have routes : lines.mapM readRoute? = some (namedRoutes model) := by
    have whole := congrArg (List.mapM id) read
    rw [List.mapM_map, List.mapM_map] at whole
    have kept : (namedRoutes model).mapM some = some ((namedRoutes model).map id) := List.mapM_pure
    rw [List.map_id] at kept
    exact whole.trans kept
  rw [tableNames?, found, Option.bind_eq_bind, Option.bind_some, routes, namedRoutes, Model.names]
  simp

/-- The table of routes is faithful: it has one line for each endpoint, in their order, from which the name, the method
and the path are read back, whatever the paths are. So from the same text follow the same routes. -/
theorem routeTable_faithful (language : Language) (config : Config) {model : Model}
    (lawful : ∀ endpoint ∈ model.endpoints, Naming.isIdentifier endpoint.name) :
    (∃ lines, tableLines? (render language config model .routes) = some lines ∧
      lines.map readRoute? = (namedRoutes model).map some) ∧
    ∀ (language' : Language) (config' : Config) (model' : Model),
      (∀ endpoint ∈ model'.endpoints, Naming.isIdentifier endpoint.name) → namedRoutes model ≠ namedRoutes model' →
        render language config model .routes ≠ render language' config' model' .routes := by
  obtain ⟨lines, found, read⟩ := exists_tableLines language config lawful
  refine ⟨⟨lines, found, read⟩, fun language' config' model' lawful' different same => different ?_⟩
  obtain ⟨lines', found', read'⟩ := exists_tableLines language' config' lawful'
  rw [same, found', Option.some_inj] at found
  rw [found, read] at read'
  exact List.map_injective_iff.mpr (Option.some_injective _) read'

end Table

def plainEndpoint (name path : String) : Endpoint := ⟨name, ⟨.get, path⟩, [], [], false, "", ""⟩

def imitatingPath : String := "/a\" \x7d,\n  b: \x7b method: \"GET\", uri: \"/b"

def imitatingModel : Model := ⟨"", "", [plainEndpoint "a" imitatingPath]⟩

def imitatedModel : Model := ⟨"", "", [plainEndpoint "a" "/a", plainEndpoint "b" "/b"]⟩

/-- What looks like a line of the table is none if it stands in a path. -/
theorem routeTable_faithful_imitating :
    (∀ endpoint ∈ imitatingModel.endpoints, Naming.isIdentifier endpoint.name) ∧
    (∃ lines, tableLines? (render .javascript .default imitatingModel .routes) = some lines ∧
      lines.map readRoute? = [some ("a", ⟨.get, imitatingPath⟩)]) ∧
    render .javascript .default imitatingModel .routes ≠ render .javascript .default imitatedModel .routes := by
  have lawful : ∀ endpoint ∈ imitatingModel.endpoints, Naming.isIdentifier endpoint.name := by decide
  have faithful := routeTable_faithful .javascript .default lawful
  exact ⟨lawful, faithful.1, faithful.2 .javascript .default imitatedModel (by decide) (by decide)⟩

end SwaggerSdk.Sdk
