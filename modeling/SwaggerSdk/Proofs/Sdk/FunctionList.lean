import SwaggerSdk.Proofs.Sdk.RouteTable

/-!
# The functions of an SDK can be read back

The file of the functions holds texts of the document in comments and in strings. Without these it is code, in which
every function begins on a line of its own. `functionNames_functions` says that the functions found there are the endpoints
of the model, in their order, whatever the texts are.
-/

namespace SwaggerSdk.Sdk

/-! ### The reader -/

/-- What a place in source text is in: code, a comment up to the end of the line, a block comment, or a string. -/
inductive Stretch where
  | code
  | remark
  | comment
  | string

/-- Source text without its comments, and without what stands in its strings. -/
def bare : Stretch → List Char → List Char
  | _, [] => []
  | .code, '/' :: '/' :: s => bare .remark s
  | .code, '/' :: '*' :: s => bare .comment s
  | .code, '"' :: s => '"' :: bare .string s
  | .code, c :: s => c :: bare .code s
  | .remark, c :: s => if isLineEnd c then c :: bare .code s else bare .remark s
  | .comment, '*' :: '/' :: s => bare .code s
  | .comment, _ :: s => bare .comment s
  | .string, '\\' :: _ :: s => bare .string s
  | .string, '"' :: s => '"' :: bare .code s
  | .string, _ :: s => bare .string s

/-- The name of the function that begins on a line. -/
def functionName? (line : List Char) : Option String :=
  (line.dropPrefix? "export async function ".toList).map fun rest => String.ofList (rest.takeWhile (· != '('))

/-- The names of the functions in source text. -/
def functionNames (text : String) : List String := (Text.lines (bare .code text.toList)).filterMap functionName?

/-! ### Stretches -/

theorem bare_code_cons {c : Char} (noSlash : c ≠ '/') (noQuote : c ≠ '"') (s : List Char) :
    bare .code (c :: s) = c :: bare .code s := by
  rw [bare.eq_def]
  split <;> simp_all

theorem bare_comment_cons {c : Char} {s : List Char} (noEnd : ¬(c = '*' ∧ s.head? = some '/')) :
    bare .comment (c :: s) = bare .comment s := by
  rw [bare.eq_def]
  split <;> simp_all

theorem bare_string_cons {c : Char} (noQuote : c ≠ '"') (noBackslash : c ≠ '\\') (s : List Char) :
    bare .string (c :: s) = bare .string s := by
  rw [bare.eq_def]
  split <;> simp_all

theorem bare_remark_append {s : List Char} (noEnd : ∀ c ∈ s, isLineEnd c = false) (t : List Char) :
    bare .remark (s ++ '\n' :: t) = '\n' :: bare .code t := by
  induction s with
  | nil => rfl
  | cons c s ih =>
    obtain ⟨first, others⟩ := List.forall_mem_cons.mp noEnd
    rw [List.cons_append, bare, first]
    exact ih others

theorem bare_comment_append {s : List Char} (unclosed : IsUnclosed (s ++ [' '])) (t : List Char) :
    bare .comment (s ++ ' ' :: '*' :: '/' :: t) = bare .code t := by
  induction s with
  | nil => rfl
  | cons c s ih =>
    obtain ⟨first, others⟩ := isUnclosed_cons.mp unclosed
    rw [List.cons_append, bare_comment_cons, ih others]
    cases s with
    | nil => exact first
    | cons d s => exact first

theorem bare_string_escapeChar (c : Char) (s : List Char) : bare .string (Json.escapeChar c ++ s) = bare .string s := by
  unfold Json.escapeChar
  split
  case h_8 noQuote noBackslash _ _ _ _ _ =>
    split
    · have plain (code : Nat) : Nat.digitChar (code % 16) ≠ '"' ∧ Nat.digitChar (code % 16) ≠ '\\' :=
        (by decide : ∀ n < 16, Nat.digitChar n ≠ '"' ∧ Nat.digitChar n ≠ '\\') _ (Nat.mod_lt code (by decide))
      show bare .string (Nat.digitChar (c.toNat / 16 % 16) :: Nat.digitChar (c.toNat % 16) :: s) = bare .string s
      rw [bare_string_cons (plain _).1 (plain _).2, bare_string_cons (plain _).1 (plain _).2]
    · exact bare_string_cons noQuote noBackslash s
  all_goals rfl

theorem bare_quoteChars (s t : List Char) : bare .code (Json.quoteChars s ++ t) = ['"', '"'] ++ bare .code t := by
  have inside : bare .string (s.flatMap Json.escapeChar ++ '"' :: t) = '"' :: bare .code t := by
    induction s with
    | nil => rfl
    | cons c s ih => rw [List.flatMap_cons, List.append_assoc, bare_string_escapeChar, ih]
  have opening (s : List Char) : bare .code ('"' :: s) = '"' :: bare .string s := rfl
  rw [Json.quoteChars, List.cons_append, List.append_assoc, List.singleton_append, opening, inside]
  rfl

/-! ### Code on one line -/

/-- Text that is code from its beginning to its end, and what is left of it. -/
def BaresTo (s left : List Char) : Prop := ∀ t, bare .code (s ++ t) = left ++ bare .code t

theorem BaresTo.append {s s' left left' : List Char} (first : BaresTo s left) (second : BaresTo s' left') :
    BaresTo (s ++ s') (left ++ left') := by
  intro t
  rw [List.append_assoc, first, second, List.append_assoc]

def isPlain (c : Char) : Bool := c != '/' && c != '"' && c != '\n'

theorem baresTo_plain {s : List Char} (plain : s.all isPlain) : BaresTo s s := by
  intro t
  induction s with
  | nil => rfl
  | cons c s ih =>
    rw [List.all_cons, Bool.and_eq_true] at plain
    obtain ⟨first, others⟩ := plain
    simp only [isPlain, Bool.and_eq_true, bne_iff_ne] at first
    rw [List.cons_append, bare_code_cons first.1.1 first.1.2, ih others, List.cons_append]

/-- Code that does not go beyond its line. -/
def IsInline (text : String) : Prop := ∃ left, BaresTo text.toList left ∧ '\n' ∉ left

theorem notMem_plain {s : List Char} (plain : s.all isPlain) : '\n' ∉ s := fun inside =>
  absurd (List.all_eq_true.mp plain _ inside) (by decide)

theorem isInline_plain {text : String} (plain : text.toList.all isPlain) : IsInline text :=
  ⟨_, baresTo_plain plain, notMem_plain plain⟩

theorem IsInline.append {text text' : String} (first : IsInline text) (second : IsInline text') :
    IsInline (text ++ text') := by
  obtain ⟨left, bares, onLine⟩ := first
  obtain ⟨left', bares', onLine'⟩ := second
  refine ⟨left ++ left', ?_, by simp [onLine, onLine']⟩
  rw [String.toList_append]
  exact bares.append bares'

theorem isInline_literal (text : String) : IsInline (literal text) := by
  refine ⟨['"', '"'], fun t => ?_, by decide⟩
  rw [literal, Json.quote, String.toList_ofList]
  exact bare_quoteChars _ t

theorem isPlain_of_listable {name : String} (listable : IsListable name) : name.toList.all isPlain := by
  refine List.all_eq_true.mpr fun c inside => ?_
  have letter := listable.letters c inside
  simp only [isPlain, Bool.and_eq_true, bne_iff_ne]
  refine ⟨⟨?_, ?_⟩, ?_⟩
  all_goals
    rintro rfl
    contradiction

theorem isInline_intercalate {separator : String} {texts : List String} (between : IsInline separator)
    (each : ∀ text ∈ texts, IsInline text) : IsInline (separator.intercalate texts) := by
  induction texts with
  | nil =>
    have empty : IsInline "" := isInline_plain (by decide)
    exact empty
  | cons text texts ih =>
    obtain ⟨first, others⟩ := List.forall_mem_cons.mp each
    cases texts with
    | nil => simpa using first
    | cons next texts =>
      rw [String.intercalate_cons_cons]
      exact (first.append between).append (ih others)

/-! ### Lines of code -/

/-- Lines of code in which functions of these names begin, one on a line. -/
def Lists (code : Lines) (names : List String) : Prop :=
  ∃ left : Lines, BaresTo code.toText.toList left.toText.toList ∧ (∀ line ∈ left, '\n' ∉ line.toList) ∧
    left.filterMap (fun line => functionName? line.toList) = names

theorem Lists.functionNames_eq {code : Lines} {names : List String} (lists : Lists code names) :
    functionNames code.toText = names := by
  obtain ⟨left, bares, onLines, found⟩ := lists
  have all := bares []
  rw [List.append_nil, bare, List.append_nil] at all
  rw [functionNames, all, Text.lines_toText left onLines, List.filterMap_map]
  exact found

theorem Lists.append {code code' : Lines} {names names' : List String} (first : Lists code names)
    (second : Lists code' names') : Lists (code ++ code') (names ++ names') := by
  obtain ⟨left, bares, onLines, rfl⟩ := first
  obtain ⟨left', bares', onLines', rfl⟩ := second
  refine ⟨left ++ left', ?_, List.forall_mem_append.mpr ⟨onLines, onLines'⟩, List.filterMap_append⟩
  rw [toText_append, toText_append, String.toList_append, String.toList_append]
  exact bares.append bares'

theorem Lists.flatMap {α : Type} {items : List α} {code : α → Lines} {name : α → String}
    (each : ∀ item ∈ items, Lists (code item) [name item]) : Lists (items.flatMap code) (items.map name) := by
  induction items with
  | nil => exact ⟨[], fun _ => rfl, nofun, rfl⟩
  | cons item items ih =>
    obtain ⟨first, others⟩ := List.forall_mem_cons.mp each
    exact first.append (ih others)

theorem lists_of_baresTo {code : Lines} (bares : BaresTo code.toText.toList ['\n']) : Lists code [] :=
  ⟨[""], bares, by decide, by decide⟩

theorem lists_empty : Lists [""] [] := by
  refine lists_of_baresTo fun t => ?_
  have feed : Lines.toText [""] = "\n" := by decide
  rw [feed]
  rfl

theorem lists_line {line : String} {left : List Char} (bares : BaresTo line.toList left) (onLine : '\n' ∉ left) :
    Lists [line] (functionName? left).toList := by
  refine ⟨[String.ofList left], ?_, by simpa using onLine, ?_⟩
  · rw [toText_cons, toText_cons]
    simp only [Lines.toText, List.map_nil, String.join_nil, String.append_empty, String.toList_append, String.toList_ofList]
    exact bares.append fun _ => rfl
  · cases found : functionName? left <;> simp [found]

theorem lists_plain {line : String} (plain : line.toList.all isPlain) (none : functionName? line.toList = none) :
    Lists [line] [] := by
  have lists := lists_line (baresTo_plain plain) (notMem_plain plain)
  rwa [none] at lists

/-- No function begins on a line that does not begin with the first letter of `export`. -/
theorem lists_other {start text : String} (plain : start.toList.all isPlain)
    (other : start.toList.head?.any (· != 'e')) (inline : IsInline text) : Lists [start ++ text] [] := by
  obtain ⟨left, bares, onLine⟩ := inline
  have all : BaresTo (start ++ text).toList (start.toList ++ left) := by
    rw [String.toList_append]
    exact (baresTo_plain plain).append bares
  have none : functionName? (start.toList ++ left) = none := by
    have keyword : "export async function ".toList = 'e' :: "xport async function ".toList := by decide
    rw [functionName?, keyword]
    -- the first letter decides, so the others are set aside
    generalize "xport async function ".toList = rest
    cases letters : start.toList with
    | nil =>
      rw [letters] at other
      cases other
    | cons first others =>
      rw [letters] at other
      have different : first ≠ 'e' := by simpa using other
      simp [List.dropPrefix?, different]
  have lists := lists_line all (by simp [notMem_plain plain, onLine])
  rwa [none] at lists

theorem lists_indent {code : Lines} (inline : ∀ line ∈ code, IsInline line) : Lists (Lines.indent code) [] := by
  induction code with
  | nil => exact ⟨[], fun _ => rfl, nofun, rfl⟩
  | cons line code ih =>
    obtain ⟨first, others⟩ := List.forall_mem_cons.mp inline
    exact (lists_other (by decide) (by decide) first).append (ih others)

/-! ### The functions of a model -/

section Model

variable {endpoint : Endpoint}

theorem lists_docComment (endpoint : Endpoint) : Lists (docComment endpoint) [] := by
  refine lists_of_baresTo fun t => ?_
  have opening (s : List Char) : bare .code ("/**".toList ++ s) = bare .comment ('*' :: s) := rfl
  have unclosed : IsUnclosed ('*' :: (commentText endpoint).toList ++ [' ']) := isUnclosed_commentText endpoint
  rw [toText_docComment, String.toList_append, String.toList_append, List.append_assoc, List.append_assoc, opening]
  exact bare_comment_append unclosed ('\n' :: t)

theorem lists_opening (config : Config) : Lists (opening config) [] := by
  have banner : Lists [banner config] [] := by
    refine lists_of_baresTo fun t => ?_
    have spelled : (Lines.toText [Sdk.banner config]).toList ++ t =
        '/' :: '/' :: ((bannerText config).toList ++ '\n' :: t) := by
      rw [toText_cons, banner_eq]
      simp [Lines.toText]
    rw [spelled, bare, bare_remark_append fun c => isLineEnd_of_mem_bannerText]
    rfl
  exact banner.append lists_empty

theorem lists_functionImports (language : Language) : Lists (functionImports language) [] := by
  have module (name : String) : IsInline (moduleName language name ++ ";") := by
    refine IsInline.append ?_ (isInline_plain (by decide))
    cases language <;> exact isInline_literal _
  have requests : Lists ["import * as __requests from " ++ (moduleName language "requests" ++ ";")] [] :=
    lists_other (by decide) (by decide) (module _)
  have routes : Lists ["import \x7b routes as __routes \x7d from " ++ (moduleName language "routes" ++ ";")] [] :=
    lists_other (by decide) (by decide) (module _)
  rw [← String.append_assoc] at requests routes
  exact requests.append routes

theorem isInline_literalType {field : Param → String} (inline : ∀ param, IsInline (field param)) (params : List Param) :
    IsInline (literalType field params) := by
  refine ((isInline_plain (by decide)).append (isInline_intercalate (isInline_plain (by decide)) ?_)).append
    (isInline_plain (by decide))
  rintro text listed
  obtain ⟨param, -, rfl⟩ := List.mem_map.mp listed
  exact inline param

theorem isInline_pathType (params : List Param) : IsInline (pathType params) := by
  unfold pathType
  split
  · exact isInline_plain (by decide)
  · exact isInline_literalType (fun param => (isInline_literal param.name).append (isInline_plain (by decide))) params

theorem isInline_queryType (params : List Param) : IsInline (queryType params) := by
  unfold queryType
  split
  · exact isInline_plain (by decide)
  · refine isInline_literalType (fun param => ((isInline_literal param.name).append ?_).append ?_) params
    · split <;> exact isInline_plain (by decide)
    · exact isInline_plain (by decide)

theorem lists_declaration {name parameters : String} (listable : IsListable name)
    (opens : parameters.toList.head? = some '(') (plain : parameters.toList.all isPlain) :
    Lists ["export async function " ++ name ++ parameters] [name] := by
  have keyword : "export async function ".toList.all isPlain := by decide
  have letters := isPlain_of_listable listable
  have found : functionName? ("export async function ".toList ++ (name.toList ++ parameters.toList)) = some name := by
    obtain ⟨rest, spelled⟩ := List.head?_eq_some_iff.mp opens
    have noParenthesis : ∀ c ∈ name.toList, (c != '(') = true := fun c inside => bne_iff_ne.mpr fun same =>
      absurd (same ▸ listable.letters c inside) (by decide)
    rw [functionName?, dropPrefix?_append, spelled, Option.map_some, List.takeWhile_append_of_pos noParenthesis,
      List.takeWhile_cons_of_neg (by decide), List.append_nil, String.ofList_toList]
  have bares : BaresTo ("export async function " ++ name ++ parameters).toList
      ("export async function ".toList ++ (name.toList ++ parameters.toList)) := by
    rw [String.toList_append, String.toList_append, List.append_assoc]
    exact (baresTo_plain keyword).append ((baresTo_plain letters).append (baresTo_plain plain))
  have onLine : '\n' ∉ "export async function ".toList ++ (name.toList ++ parameters.toList) := by
    rw [List.mem_append, List.mem_append]
    exact fun inside => inside.elim (notMem_plain keyword) (Or.rec (notMem_plain letters) (notMem_plain plain))
  have lists := lists_line bares onLine
  rwa [found] at lists

theorem lists_functionHead (language : Language) (listable : IsListable endpoint.name) :
    Lists (functionHead language endpoint) [endpoint.name] := by
  cases language with
  | javascript => exact lists_declaration listable (by decide) (by decide)
  | typescript =>
    have comma : IsInline "," := isInline_plain (by decide)
    have path : IsInline ("path?: " ++ pathType endpoint.pathParams ++ ",") :=
      ((isInline_plain (by decide)).append (isInline_pathType _)).append comma
    have query : IsInline ("query?: " ++ queryType endpoint.queryParams ++ ",") :=
      ((isInline_plain (by decide)).append (isInline_queryType _)).append comma
    have body : IsInline ("body?: " ++ bodyType endpoint ++ ",") := by
      refine ((isInline_plain (by decide)).append ?_).append comma
      unfold bodyType
      split <;> exact isInline_plain (by decide)
    have config : IsInline "config: __requests.RequestConfig = \x7b\x7d," := isInline_plain (by decide)
    have result : Lists ["): Promise<__requests.SdkResponse> \x7b"] [] :=
      lists_plain (by decide) (by decide)
    have parameters := lists_indent (List.forall_mem_cons.mpr ⟨path, List.forall_mem_cons.mpr ⟨query,
      List.forall_mem_cons.mpr ⟨body, List.forall_mem_singleton.mpr config⟩⟩⟩)
    exact ((lists_declaration listable (by decide) (by decide)).append parameters).append result

theorem lists_functionBody (listable : IsListable endpoint.name) : Lists (Lines.indent (functionBody endpoint)) [] := by
  have route : IsInline ("const route = __routes." ++ endpoint.name ++ ";") :=
    ((isInline_plain (by decide)).append (isInline_plain (isPlain_of_listable listable))).append
      (isInline_plain (by decide))
  have call : IsInline "return __requests.request(route.method, route.uri, path, query, body, config);" :=
    isInline_plain (by decide)
  exact lists_indent (List.forall_mem_cons.mpr ⟨route, List.forall_mem_singleton.mpr call⟩)

theorem lists_function (language : Language) (listable : IsListable endpoint.name) :
    Lists (function language endpoint) [endpoint.name] := by
  have closing : Lists ["\x7d"] [] := lists_plain (by decide) (by decide)
  exact (((lists_empty.append (lists_docComment endpoint)).append (lists_functionHead language listable)).append
    (lists_functionBody listable)).append closing

/-- The functions in the file are the endpoints, in their order. -/
theorem functionNames_functions (language : Language) (config : Config) {model : Model}
    (lawful : ∀ endpoint ∈ model.endpoints, Naming.isIdentifier endpoint.name) :
    functionNames (render language config model .functions) = model.names := by
  have each : Lists (model.endpoints.flatMap (function language)) model.names := Lists.flatMap fun endpoint listed =>
    lists_function language (isListable_of_isIdentifier (lawful endpoint listed))
  exact (((lists_opening config).append (lists_functionImports language)).append each).functionNames_eq

end Model

end SwaggerSdk.Sdk
