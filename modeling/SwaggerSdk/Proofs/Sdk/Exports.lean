import SwaggerSdk.Proofs.Sdk.Comments
import SwaggerSdk.Proofs.Sdk.Names

/-!
# What a package exports

The index exports all functions, and beside them the names that its lines list. These are read back from its text
(`exportedNames_index`). Types are exported under fixed names, and two of these names are not kept from the
configuration: `exports_distinct_iff` says that no name is exported twice, unless one of the two is chosen.
-/

namespace SwaggerSdk.Sdk

def isBrace (c : Char) : Bool := c == '\x7b' || c == '\x7d'

/-- The names in the braces of an export. -/
def listedNames (line : List Char) : List String :=
  if "export".toList.isPrefixOf line then
    match Text.split isBrace line with
    | _ :: names :: _ => (Text.wordsIn names).map String.ofList
    | _ => []
  else []

/-- The names that the exports of a module list. -/
def exportedNames (text : String) : List String := (Text.lines text.toList).flatMap listedNames

structure IsListable (name : String) : Prop where
  nonempty : name.toList ≠ []
  letters : ∀ c ∈ name.toList, Text.isWordChar c

theorem isListable_of_isIdentifier {name : String} (lawful : Naming.isIdentifier name) : IsListable name := by
  unfold Naming.isIdentifier at lawful
  cases spelled : name.toList with
  | nil => rw [spelled] at lawful; cases lawful
  | cons first others =>
    rw [spelled] at lawful
    simp only [Naming.isIdentifierChars, Bool.and_eq_true, Bool.or_eq_true, List.all_eq_true] at lawful
    refine ⟨by simp [spelled], fun c listed => ?_⟩
    rw [spelled] at listed
    rcases List.mem_cons.mp listed with rfl | later
    · simp only [Text.isWordChar, Char.isAlphanum, Bool.or_eq_true]
      exact lawful.1.imp_left .inl
    · exact lawful.2 c later

/-! ### Reading a list of names -/

section Lists

variable {names : List String}

def listing (names : List String) : List Char := ' ' :: ([',', ' '].intercalate (names.map String.toList) ++ [' '])

theorem toList_nameList : (nameList names).toList = '\x7b' :: (listing names ++ ['\x7d']) := by
  simp [nameList, inline, listing, String.toList_intercalate]

theorem mem_listing (listable : ∀ name ∈ names, IsListable name) {c : Char} (inside : c ∈ listing names) :
    c = ' ' ∨ c = ',' ∨ Text.isWordChar c := by
  rcases List.mem_cons.mp inside with rfl | inside
  · exact .inl rfl
  rcases List.mem_append.mp inside with inside | inside
  · rcases Text.mem_or_exists_of_mem_intercalate inside with comma | ⟨word, member, letter⟩
    · simp only [List.mem_cons, List.not_mem_nil, or_false] at comma
      exact comma.elim (fun same => .inr (.inl same)) .inl
    · obtain ⟨name, listed, rfl⟩ := List.mem_map.mp member
      exact .inr (.inr ((listable name listed).letters c letter))
  · exact .inl (List.mem_singleton.mp inside)

/-- What is neither a blank nor a comma nor a word character is not in a listing. -/
theorem ne_of_mem_listing (listable : ∀ name ∈ names, IsListable name) {c d : Char} (inside : c ∈ listing names)
    (other : d ≠ ' ' ∧ d ≠ ',' ∧ Text.isWordChar d = false) : c ≠ d := by
  rintro rfl
  rcases mem_listing listable inside with blank | comma | letter
  · exact other.1 blank
  · exact other.2.1 comma
  · rw [other.2.2] at letter
    cases letter

theorem wordsIn_listing (listable : ∀ name ∈ names, IsListable name) :
    Text.wordsIn (listing names) = names.map String.toList := by
  rw [listing, Text.wordsIn_cons (by decide)]
  refine Text.wordsIn_intercalate _ (fun word member => ?_) fun word member => ?_
  · obtain ⟨name, listed, rfl⟩ := List.mem_map.mp member
    exact (listable name listed).nonempty
  · obtain ⟨name, listed, rfl⟩ := List.mem_map.mp member
    exact (listable name listed).letters

theorem listedNames_export (head : String) (isExport : "export".toList.isPrefixOf head.toList)
    (unbraced : head.toList.any isBrace = false) (listable : ∀ name ∈ names, IsListable name) (tail : String) :
    listedNames (head ++ nameList names ++ tail).toList = names := by
  have plain : ∀ c ∈ listing names, isBrace c = false := fun c inside => by
    simp [isBrace, ne_of_mem_listing listable inside (d := '\x7b') (by decide),
      ne_of_mem_listing listable inside (d := '\x7d') (by decide)]
  have unbraced' : ∀ c ∈ head.toList, isBrace c = false := by simpa only [List.any_eq_false, Bool.not_eq_true] using unbraced
  have spelled : (head ++ nameList names ++ tail).toList =
      head.toList ++ '\x7b' :: (listing names ++ '\x7d' :: tail.toList) := by
    simp [toList_nameList]
  have isExport' : "export".toList.isPrefixOf (head ++ nameList names ++ tail).toList := by
    rw [List.isPrefixOf_iff_prefix] at isExport ⊢
    exact spelled ▸ isExport.trans (List.prefix_append _ _)
  rw [listedNames, if_pos isExport', spelled, Text.split_append unbraced' (by decide), Text.split_append plain (by decide)]
  simp [wordsIn_listing listable]

end Lists

/-! ### Reading the index back -/

def routeTypes : List String := ["OperationName", "Route"]

def requestTypes : List String := ["RequestConfig", "SdkResponse", "TokenProvider"]

def typesOf (language : Language) (types : List String) : List String :=
  match language with
  | .typescript => types
  | .javascript => []

section Index

variable {language : Language} {file : String} {names : List String}

theorem flatMap_exportNames (listable : ∀ name ∈ names, IsListable name) :
    (exportNames language file names).flatMap (fun line => listedNames line.toList) = names := by
  unfold exportNames
  split
  · rename_i empty
    rw [List.isEmpty_iff.mp empty]
    rfl
  · rw [List.flatMap_cons, List.flatMap_nil, List.append_nil, String.append_assoc, String.append_assoc]
    exact listedNames_export "export " (by decide) (by decide) listable _

theorem flatMap_exportTypes (listable : ∀ name ∈ names, IsListable name) :
    (exportTypes language file names).flatMap (fun line => listedNames line.toList) = typesOf language names := by
  cases language with
  | javascript => rfl
  | typescript =>
    rw [exportTypes, List.flatMap_cons, List.flatMap_nil, List.append_nil, String.append_assoc, String.append_assoc]
    exact listedNames_export "export type " (by decide) (by decide) listable _

theorem notMem_export {head : String} (headed : '\n' ∉ head.toList) (named : '\n' ∉ (moduleName language file).toList)
    (listable : ∀ name ∈ names, IsListable name) :
    '\n' ∉ (head ++ nameList names ++ " from " ++ moduleName language file ++ ";").toList := by
  have listed : '\n' ∉ listing names := fun inside => ne_of_mem_listing listable inside (d := '\n') (by decide) rfl
  simp only [String.toList_append, toList_nameList, List.mem_append, List.mem_cons, not_or]
  exact ⟨⟨⟨⟨headed, by decide, listed, by decide, by decide⟩, by decide⟩, named⟩, by decide⟩

theorem notMem_exportNames (named : '\n' ∉ (moduleName language file).toList)
    (listable : ∀ name ∈ names, IsListable name) : ∀ line ∈ exportNames language file names, '\n' ∉ line.toList := by
  unfold exportNames
  split
  · exact fun line listed => absurd listed List.not_mem_nil
  · intro line listed
    rw [List.mem_singleton.mp listed]
    exact notMem_export (by decide) named listable

theorem notMem_exportTypes (named : '\n' ∉ (moduleName language file).toList)
    (listable : ∀ name ∈ names, IsListable name) : ∀ line ∈ exportTypes language file names, '\n' ∉ line.toList := by
  cases language with
  | javascript => exact fun line listed => absurd listed List.not_mem_nil
  | typescript =>
    intro line listed
    rw [List.mem_singleton.mp listed]
    exact notMem_export (by decide) named listable

theorem notMem_banner (config : Config) : '\n' ∉ (banner config).toList := by
  rw [banner_eq, String.toList_append, List.mem_append, not_or]
  exact ⟨by decide, fun inside => absurd (isLineEnd_of_mem_bannerText inside) (by decide)⟩

theorem listedNames_banner (config : Config) : listedNames (banner config).toList = [] := by
  rw [banner_eq, String.toList_append]
  rfl

theorem isListable_of_mem {config : Config} (pass : config.NamesPass) {name : String}
    (listed : name ∈ config.chosenNames ++ (routeExports ++ routeTypes ++ requestTypes ++ ["setBaseUrl", "setTokenProvider"])) :
    IsListable name := by
  have fixed : ∀ name ∈ routeExports ++ routeTypes ++ requestTypes ++ ["setBaseUrl", "setTokenProvider"],
      Naming.isIdentifier name := by decide
  rcases List.mem_append.mp listed with chosen | listed
  · exact isListable_of_isIdentifier (Config.isIdentifier_of_isUsableName (pass.isUsableName chosen))
  · exact isListable_of_isIdentifier (fixed name listed)

/-- The names of the index are read back from its text, if the chosen ones are lawful. -/
theorem exportedNames_index (language : Language) {config : Config} (pass : config.NamesPass) (model : Model) :
    exportedNames (render language config model .index) =
      freeNames model routeExports ++ typesOf language routeTypes ++
        (freeNames model (requestExports config) ++ typesOf language requestTypes) := by
  have routes : ∀ name ∈ freeNames model routeExports, IsListable name := fun name listed =>
    isListable_of_mem pass (by simp [(List.mem_filter.mp listed).1])
  have requests : ∀ name ∈ freeNames model (requestExports config), IsListable name := fun name listed => by
    have split : name ∈ config.chosenNames ++ ["setBaseUrl", "setTokenProvider"] := (List.mem_filter.mp listed).1
    exact isListable_of_mem pass ((List.mem_append.mp split).elim (List.mem_append_left _) fun own =>
      List.mem_append_right _ (List.mem_append_right _ own))
  have typesOfRoutes : ∀ name ∈ routeTypes, IsListable name := fun name listed =>
    isListable_of_mem pass (by simp [listed])
  have typesOfRequests : ∀ name ∈ requestTypes, IsListable name := fun name listed =>
    isListable_of_mem pass (by simp [listed])
  have fromRoutes : '\n' ∉ (moduleName language "routes").toList := by cases language <;> decide
  have fromRequests : '\n' ∉ (moduleName language "requests").toList := by cases language <;> decide
  have plain : ∀ line ∈ index language config model, '\n' ∉ line.toList := by
    simp only [index, opening, List.forall_mem_append, List.forall_mem_cons]
    refine ⟨⟨⟨⟨⟨⟨notMem_banner config, by decide⟩, ?_⟩, ?_⟩, ?_⟩, ?_⟩, ?_⟩
    · cases language <;> decide
    · exact notMem_exportNames fromRoutes routes
    · exact notMem_exportTypes fromRoutes typesOfRoutes
    · exact notMem_exportNames fromRequests requests
    · exact notMem_exportTypes fromRequests typesOfRequests
  have functions : listedNames ("export * from " ++ moduleName language "sdk" ++ ";").toList = [] := by
    cases language <;> decide
  have empty : listedNames "".toList = [] := by decide
  have types : (exportTypes language "routes" ["OperationName", "Route"]).flatMap
      (fun line => listedNames line.toList) = typesOf language routeTypes := flatMap_exportTypes typesOfRoutes
  have types' : (exportTypes language "requests" ["RequestConfig", "SdkResponse", "TokenProvider"]).flatMap
      (fun line => listedNames line.toList) = typesOf language requestTypes := flatMap_exportTypes typesOfRequests
  rw [exportedNames, render, Text.lines_toText _ plain, List.flatMap_map]
  simp only [index, opening, List.flatMap_append, List.flatMap_cons, List.flatMap_nil, listedNames_banner, functions, empty,
    flatMap_exportNames routes, flatMap_exportNames requests, types, types', List.nil_append, List.append_nil,
    List.append_assoc]

end Index

/-! ### Distinct exports -/

/-- All names that can be had from the package: those of the functions and those that the index lists. -/
def publicNames (language : Language) (config : Config) (model : Model) : List String :=
  model.names ++ exportedNames (render language config model .index)

section Distinct

variable {language : Language} {config : Config}

theorem mem_freeNames {model : Model} {names : List String} {name : String} :
    name ∈ freeNames model names ↔ name ∈ names ∧ name ∉ model.names := by
  simp [freeNames, Model.hasEndpoint_eq]

/-- The names that the index would export if no endpoint had one of them, the chosen ones apart. -/
def fixedNames (language : Language) : List String :=
  routeExports ++ typesOf language routeTypes ++ (["setBaseUrl", "setTokenProvider"] ++ typesOf language requestTypes)

theorem mem_fixedNames {name : String} (listed : name ∈ fixedNames language) :
    name ∈ Config.runtimeNames ∨ language = .typescript ∧ name ∈ routeTypes := by
  cases language <;> revert name <;> decide

/-- Neither of the types that are not kept from the configuration is chosen. -/
def LeavesRouteTypes (language : Language) (config : Config) : Prop :=
  language = .typescript → ∀ name ∈ config.chosenNames, name ∉ routeTypes

theorem nodup_indexNames (pass : config.NamesPass) (leaves : LeavesRouteTypes language config) :
    (routeExports ++ typesOf language routeTypes ++ (requestExports config ++ typesOf language requestTypes)).Nodup := by
  have order : (routeExports ++ typesOf language routeTypes ++ (requestExports config ++ typesOf language requestTypes)).Perm
      (config.chosenNames ++ fixedNames language) := List.perm_append_comm_assoc _ config.chosenNames _
  rw [order.nodup_iff, List.nodup_append]
  refine ⟨by simp [Config.chosenNames, pass.distinct], by cases language <;> decide, ?_⟩
  rintro name chosen _ listed rfl
  rcases mem_fixedNames listed with kept | ⟨typed, type⟩
  · exact Config.notMem_runtimeNames (pass.isUsableName chosen) kept
  · exact leaves typed name chosen type

theorem nodup_publicNames (pass : config.NamesPass) (leaves : LeavesRouteTypes language config) (document : Document) :
    (publicNames language config (Model.ofDocument document)).Nodup := by
  have types : ∀ name ∈ typesOf language routeTypes ++ typesOf language requestTypes,
      name ∉ (Model.ofDocument document).names := fun name listed =>
    document.notMem_names (by cases language <;> revert name <;> decide)
  rw [publicNames, exportedNames_index language pass, List.nodup_append]
  refine ⟨document.nodup_names, ?_, ?_⟩
  · refine (nodup_indexNames pass leaves).sublist ?_
    exact (List.filter_sublist.append (.refl _)).append (List.filter_sublist.append (.refl _))
  · rintro name derived _ listed rfl
    rcases List.mem_append.mp listed with listed | listed
    · rcases List.mem_append.mp listed with free | type
      · exact (mem_freeNames.mp free).2 derived
      · exact types name (List.mem_append_left _ type) derived
    · rcases List.mem_append.mp listed with free | type
      · exact (mem_freeNames.mp free).2 derived
      · exact types name (List.mem_append_right _ type) derived

/-- A chosen name of such a type is exported beside the type. -/
theorem not_nodup_publicNames (pass : config.NamesPass) {name : String} (chosen : name ∈ config.chosenNames)
    (type : name ∈ routeTypes) (document : Document) :
    ¬(publicNames .typescript config (Model.ofDocument document)).Nodup := by
  have capital : ∀ name ∈ routeTypes, Naming.startsLower name = false := by decide
  have free : name ∈ freeNames (Model.ofDocument document) (requestExports config) :=
    mem_freeNames.mpr ⟨List.mem_append_left ["setBaseUrl", "setTokenProvider"] chosen, document.notMem_names (capital name type)⟩
  rw [publicNames, exportedNames_index _ pass]
  intro nodup
  have parts := (List.nodup_append.mp (List.nodup_append.mp nodup).2.1).2.2
  exact parts name (List.mem_append_right _ type) name (List.mem_append_left _ free) rfl

end Distinct

/-- The exports of a package are distinct, for all documents and all accepted configurations, if no chosen name is that
of a type of the table of routes. Only these two types are not kept from the configuration. -/
theorem exports_distinct_iff (language : Language) {config : Config} {settled : Language × String}
    (accepted : config.check = .ok settled) (document : Document) :
    (publicNames language config (Model.ofDocument document)).Nodup ↔
      (language = .typescript → ∀ name ∈ config.chosenNames, name ∉ ["OperationName", "Route"]) := by
  have pass := Config.namesPass_of_check accepted
  refine ⟨fun nodup typed name chosen type => ?_, fun leaves => nodup_publicNames pass leaves document⟩
  subst typed
  exact not_nodup_publicNames pass chosen type document nodup

def baseUrlNamed (name : String) : Config := { Config.default with input := some "api.json", baseUrlVar := name }

theorem exports_distinct_crowded :
    (baseUrlNamed "apiRoot").check = .ok (.typescript, "api.json") ∧
    (publicNames .typescript (baseUrlNamed "apiRoot") (Model.ofDocument .crowded)).Nodup := by
  have accepted : (baseUrlNamed "apiRoot").check = .ok (.typescript, "api.json") := by decide +kernel
  exact ⟨accepted, (exports_distinct_iff .typescript accepted .crowded).mpr (by decide +kernel)⟩

/-- The base URL may be named `Route`, like a type that is exported. -/
theorem exports_clash_route :
    (baseUrlNamed "Route").check = .ok (.typescript, "api.json") ∧
    (Model.ofDocument .crowded).isEmpty = false ∧
    ¬(publicNames .typescript (baseUrlNamed "Route") (Model.ofDocument .crowded)).Nodup := by
  have accepted : (baseUrlNamed "Route").check = .ok (.typescript, "api.json") := by decide +kernel
  have chosen : "Route" ∈ (baseUrlNamed "Route").chosenNames := List.mem_cons_self
  refine ⟨accepted, (Document.isEmpty_model .crowded).trans (by decide), ?_⟩
  exact not_nodup_publicNames (Config.namesPass_of_check accepted) chosen (by decide) .crowded

end SwaggerSdk.Sdk
