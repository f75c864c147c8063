import SwaggerSdk.Proofs.Model.ParameterOrder
import SwaggerSdk.Proofs.Sdk.RouteTable

/-!
# The types of arguments

The type of an argument is an object type over the names of parameters. A list of parameters may repeat a name, a type
may not, and names may hold any text. Read with nothing but its layout in mind, the type declares the names of the list,
each once and in ascending order, and a field may be left out if the first parameter of its name may
(`argumentTypes_faithful`).
-/

namespace SwaggerSdk.Sdk

/-! ### The reader -/

structure Field where
  name : String
  isOptional : Bool
  type : String

def inType (c : Char) : Bool := c != ';' && c != '\x7d'

def readMark : List Char → Bool × List Char
  | '?' :: s => (true, s)
  | s => (false, s)

/-- Reads a field, and returns what stands behind it. The name is a string, and the type goes on to the end of the field. -/
def readField? (s : List Char) : Option (Field × List Char) := do
  let (name, rest) ← readLiteral? s
  let (isOptional, rest) := readMark rest
  let rest ← rest.dropPrefix? ": ".toList
  let type := Text.stripEnd (· == ' ') (rest.takeWhile inType)
  return (⟨name, isOptional, String.ofList type⟩, rest.dropWhile inType)

/-- Reads fields up to the brace that closes their type; `fuel` bounds their number. -/
def readFields? : Nat → List Char → Option (List Field)
  | 0, _ => none
  | fuel + 1, s => do
    let (field, rest) ← readField? s
    if rest = ['\x7d'] then return [field]
    let fields ← readFields? fuel (← rest.dropPrefix? "; ".toList)
    return field :: fields

/-- The fields that an object type declares. -/
def fields? (type : String) : Option (List Field) := do
  let rest ← type.toList.dropPrefix? "\x7b ".toList
  readFields? rest.length rest

/-! ### Reading a written type -/

def Field.text (field : Field) : String :=
  literal field.name ++ (if field.isOptional then "?" else "") ++ ": " ++ field.type

/-- A type that ends where it seems to. -/
structure IsPlain (type : String) : Prop where
  letters : ∀ c ∈ type.toList, inType c = true
  trimmed : ∀ gap ∈ [[], [' ']], Text.stripEnd (· == ' ') (type.toList ++ gap) = type.toList

theorem readField?_text {field : Field} (plain : IsPlain field.type) {gap : List Char} (isGap : gap ∈ [[], [' ']]) {c : Char}
    (ends : inType c = false) (rest : List Char) :
    readField? (field.text.toList ++ (gap ++ c :: rest)) = some (field, c :: rest) := by
  have inside : ∀ d ∈ field.type.toList ++ gap, inType d = true := by
    refine List.forall_mem_append.mpr ⟨plain.letters, fun d member => ?_⟩
    simp only [List.mem_cons, List.not_mem_nil, or_false] at isGap
    rcases isGap with rfl | rfl
    · cases member
    · rw [List.mem_singleton.mp member]
      rfl
  have type : (field.type.toList ++ (gap ++ c :: rest)).takeWhile inType = field.type.toList ++ gap := by
    rw [← List.append_assoc, List.takeWhile_append_of_pos inside, List.takeWhile_cons_of_neg (by simp [ends]),
      List.append_nil]
  have behind : (field.type.toList ++ (gap ++ c :: rest)).dropWhile inType = c :: rest := by
    rw [← List.append_assoc, List.dropWhile_append_of_pos inside, List.dropWhile_cons_of_neg (by simp [ends])]
  have marked (isOptional : Bool) (s : List Char) :
      readMark ((if isOptional then "?" else "").toList ++ (": ".toList ++ s)) = (isOptional, ": ".toList ++ s) := by
    cases isOptional <;> rfl
  have spelled : field.text.toList ++ (gap ++ c :: rest) = (literal field.name).toList ++
      ((if field.isOptional then "?" else "").toList ++ (": ".toList ++ (field.type.toList ++ (gap ++ c :: rest)))) := by
    simp only [Field.text, String.toList_append, List.append_assoc]
  rw [spelled, readField?]
  simp only [readLiteral?_literal, Option.bind_eq_bind, Option.bind_some, marked, dropPrefix?_append,
    type, behind, plain.trimmed gap isGap, String.ofList_toList]
  rfl

/-- The text behind the opening brace of an object type. -/
def fieldsText (fields : List Field) : List Char :=
  "; ".toList.intercalate (fields.map (·.text.toList)) ++ " \x7d".toList

theorem readFields?_fieldsText {fields : List Field} (nonempty : fields ≠ []) (plain : ∀ field ∈ fields, IsPlain field.type)
    {fuel : Nat} (enough : (fieldsText fields).length ≤ fuel) : readFields? fuel (fieldsText fields) = some fields := by
  induction fields generalizing fuel with
  | nil => exact absurd rfl nonempty
  | cons field fields ih =>
    obtain ⟨first, others⟩ := List.forall_mem_cons.mp plain
    cases fuel with
    | zero =>
      rw [fieldsText, List.length_append] at enough
      exact absurd enough (by simp)
    | succ fuel =>
      cases fields with
      | nil =>
        have last : fieldsText [field] = field.text.toList ++ ([' '] ++ '\x7d' :: []) := by
          rw [fieldsText, List.map_singleton, List.intercalate_singleton]
          rfl
        rw [readFields?, last, readField?_text first (by simp) (by decide)]
        rfl
      | cons next fields =>
        have more : fieldsText (field :: next :: fields) =
            field.text.toList ++ ([] ++ ';' :: ' ' :: fieldsText (next :: fields)) := by
          simp only [fieldsText, List.map_cons, List.intercalate_cons_cons, List.append_assoc]
          rfl
        have separator (s : List Char) : (';' :: ' ' :: s).dropPrefix? "; ".toList = some s :=
          dropPrefix?_append "; ".toList s
        rw [more] at enough ⊢
        have shorter : (fieldsText (next :: fields)).length ≤ fuel := by
          simp only [List.length_append, List.length_cons] at enough
          omega
        rw [readFields?, readField?_text first (by simp) (by decide)]
        simp only [Option.bind_eq_bind, Option.bind_some, separator, ih (List.cons_ne_nil _ _) others shorter]
        rfl

theorem fields?_inline {fields : List Field} (nonempty : fields ≠ []) (plain : ∀ field ∈ fields, IsPlain field.type) :
    fields? (inline "; " (fields.map Field.text)) = some fields := by
  have spelled : (inline "; " (fields.map Field.text)).toList = "\x7b ".toList ++ fieldsText fields := by
    simp only [inline, fieldsText, String.toList_append, String.toList_intercalate, List.map_map, List.append_assoc]
    rfl
  rw [fields?, spelled, dropPrefix?_append]
  exact readFields?_fieldsText nonempty plain (Nat.le_refl _)

/-! ### One parameter for each name -/

section Distinct

variable {params : List Param}

theorem distinctParams_cons (first : Param) (params : List Param) :
    ∃ rest, distinctParams (first :: params) = first :: rest := by
  cases params with
  | nil => exact ⟨[], rfl⟩
  | cons second params =>
    rw [distinctParams]
    split <;> exact ⟨_, rfl⟩

theorem names_distinctParams (params : List Param) (name : String) :
    name ∈ (distinctParams params).map Param.name ↔ name ∈ params.map Param.name := by
  fun_induction distinctParams params with
  | case1 | case2 => rfl
  | case3 first second params same ih =>
    obtain ⟨rest, found⟩ := distinctParams_cons second params
    rw [found] at ih ⊢
    simp only [List.tail_cons, List.map_cons, List.mem_cons, same] at ih ⊢
    rw [ih, or_self_left]
  | case4 first second params _ ih => rw [List.map_cons, List.map_cons, List.mem_cons, List.mem_cons, ih]

/-- What is left out of a sorted list are the parameters that have the name of an earlier one, so the names ascend, and
each parameter is the first of its name. -/
theorem distinctParams_sorted (sorted : params.Pairwise fun a b => a.name ≤ b.name) :
    Ascending Param.name (distinctParams params) ∧
      ∀ param ∈ distinctParams params, params.find? (·.name == param.name) = some param := by
  fun_induction distinctParams params with
  | case1 => exact ⟨.nil, nofun⟩
  | case2 param => exact ⟨List.pairwise_singleton _ _, by simp⟩
  | case3 first second params same ih =>
    obtain ⟨ascending, leads⟩ := ih sorted.tail
    obtain ⟨rest, found⟩ := distinctParams_cons second params
    rw [found] at ascending leads ⊢
    obtain ⟨above, ascending⟩ := List.pairwise_cons.mp ascending
    -- the first of two parameters of one name takes the place of the second, which leads the rest
    have above : ∀ param ∈ rest, first.name < param.name := fun param member => same ▸ above param member
    refine ⟨List.pairwise_cons.mpr ⟨above, ascending⟩, List.forall_mem_cons.mpr ⟨by simp, fun param member => ?_⟩⟩
    rw [List.find?_cons_of_neg (by simpa using String.ne_of_lt (above param member))]
    exact leads param (List.mem_cons_of_mem _ member)
  | case4 first second params different ih =>
    obtain ⟨ascending, leads⟩ := ih sorted.tail
    have below : ∀ param ∈ distinctParams (second :: params), first.name < param.name := by
      obtain ⟨rest, found⟩ := distinctParams_cons second params
      have next : first.name < second.name := String.not_le.mp fun after =>
        different (String.le_antisymm ((List.pairwise_cons.mp sorted).1 second List.mem_cons_self) after)
      rw [found] at ascending ⊢
      refine List.forall_mem_cons.mpr ⟨next, fun param member => ?_⟩
      exact String.lt_trans next ((List.pairwise_cons.mp ascending).1 param member)
    refine ⟨List.pairwise_cons.mpr ⟨below, ascending⟩, List.forall_mem_cons.mpr ⟨by simp, fun param member => ?_⟩⟩
    rw [List.find?_cons_of_neg (by simpa using String.ne_of_lt (below param member))]
    exact leads param member

end Distinct

/-! ### The types of an endpoint -/

/-- An object type declares the names of parameters, each of them once and in ascending order, by these fields. -/
structure Declares (type : String) (params : List Param) (fields : List Field) : Prop where
  read : fields? type = some fields
  ascending : Ascending Field.name fields
  names : ∀ name, name ∈ fields.map Field.name ↔ name ∈ params.map Param.name

def Field.ofParam (isOptional : Param → Bool) (type : String) (param : Param) : Field :=
  ⟨param.name, isOptional param, type⟩

section Types

variable {params : List Param}

theorem literalType_declares (isOptional : Param → Bool) {type : String} (plain : IsPlain type) (nonempty : params ≠ [])
    (sorted : params.Pairwise fun a b => a.name ≤ b.name) :
    Declares (literalType (fun param => (Field.ofParam isOptional type param).text) params) params
      ((distinctParams params).map (.ofParam isOptional type)) := by
  have names : Field.name ∘ Field.ofParam isOptional type = Param.name := rfl
  refine ⟨?_, ?_, fun name => ?_⟩
  · have declared : (distinctParams params).map (Field.ofParam isOptional type) ≠ [] := by
      obtain ⟨first, others, rfl⟩ := List.exists_cons_of_ne_nil nonempty
      obtain ⟨rest, found⟩ := distinctParams_cons first others
      rw [found]
      exact List.cons_ne_nil _ _
    have read := fields?_inline declared (List.forall_mem_map.mpr fun _ _ => plain)
    rwa [List.map_map] at read
  · rw [← ascending_map_iff, List.map_map, names, ascending_map_iff]
    exact (distinctParams_sorted sorted).1
  · rw [List.map_map, names]
    exact names_distinctParams params name

theorem pathType_declares (nonempty : params ≠ []) (sorted : params.Pairwise fun a b => a.name ≤ b.name) :
    Declares (pathType params) params ((distinctParams params).map (.ofParam (fun _ => false) "string | number")) := by
  have plain : IsPlain "string | number" := ⟨by simp [inType], by simp [Text.stripEnd]⟩
  have declares := literalType_declares (fun _ => false) plain nonempty sorted
  rw [pathType, if_neg (by simpa using nonempty)]
  simpa [Field.text, Field.ofParam, String.append_assoc] using declares

theorem queryType_declares (nonempty : params ≠ []) (sorted : params.Pairwise fun a b => a.name ≤ b.name) :
    Declares (queryType params) params ((distinctParams params).map (.ofParam (fun param => !param.required) "unknown")) := by
  have plain : IsPlain "unknown" := ⟨by simp [inType], by simp [Text.stripEnd]⟩
  have type : queryType params =
      literalType (fun param => (Field.ofParam (fun param => !param.required) "unknown" param).text) params := by
    rw [queryType, if_neg (by simpa using nonempty)]
    refine congrArg (literalType · params) (funext fun param => ?_)
    rcases param with ⟨name, _ | _⟩ <;> simp [Field.text, Field.ofParam, String.append_assoc]
  rw [type]
  exact literalType_declares _ plain nonempty sorted

end Types

/-- The types of the arguments of an endpoint declare the names of its parameters, each once and in ascending order, and
the first parameter of a name says whether its field may be left out of a query. -/
theorem argumentTypes_faithful {document : Document} {endpoint : Endpoint}
    (listed : endpoint ∈ (Model.ofDocument document).endpoints) :
    (endpoint.pathParams ≠ [] →
      ∃ fields, Declares (pathType endpoint.pathParams) endpoint.pathParams fields ∧
        ∀ field ∈ fields, field.isOptional = false) ∧
    (endpoint.queryParams ≠ [] →
      ∃ fields, Declares (queryType endpoint.queryParams) endpoint.queryParams fields ∧
        ∀ field ∈ fields, ∃ param, endpoint.queryParams.find? (·.name == field.name) = some param ∧
          field.isOptional = !param.required) := by
  have sorted := sorted_params listed
  refine ⟨fun nonempty => ⟨_, pathType_declares nonempty sorted.pathParams, ?_⟩,
    fun nonempty => ⟨_, queryType_declares nonempty sorted.queryParams, ?_⟩⟩
  · exact List.forall_mem_map.mpr fun _ _ => rfl
  · refine List.forall_mem_map.mpr fun param kept => ⟨param, ?_, rfl⟩
    exact (distinctParams_sorted sorted.queryParams).2 param kept

/-- A parameter whose name goes on like the rest of its field and another one, and two of one name. -/
def imitatingParameters : List Parameter :=
  [⟨"id", .ofName "path", none, true, none⟩, .ofQuery "a\"?: unknown; \"b", .ofQueryRequired "tag", .ofQuery "tag"]

theorem argumentTypes_faithful_imitating :
    ∃ endpoint ∈ (Model.ofDocument (.taking imitatingParameters)).endpoints,
      endpoint.pathParams = [⟨"id", true⟩] ∧
      endpoint.queryParams = [⟨"a\"?: unknown; \"b", false⟩, ⟨"tag", true⟩, ⟨"tag", false⟩] ∧
      (∃ fields, Declares (pathType endpoint.pathParams) endpoint.pathParams fields ∧
        ∀ field ∈ fields, field.isOptional = false) ∧
      ∃ fields, Declares (queryType endpoint.queryParams) endpoint.queryParams fields ∧
        ∀ field ∈ fields, ∃ param, endpoint.queryParams.find? (·.name == field.name) = some param ∧
          field.isOptional = !param.required := by
  obtain ⟨endpoint, endpoints, path, query⟩ := endpoints_taking imitatingParameters
  have listed : endpoint ∈ (Model.ofDocument (.taking imitatingParameters)).endpoints := by
    rw [endpoints]
    exact List.mem_singleton_self _
  rw [Parameter.located, List.mergeSort_of_pairwise (by decide)] at path query
  have path : endpoint.pathParams = [⟨"id", true⟩] := path.trans (by decide)
  have query : endpoint.queryParams = [⟨"a\"?: unknown; \"b", false⟩, ⟨"tag", true⟩, ⟨"tag", false⟩] :=
    query.trans (by decide)
  have faithful := argumentTypes_faithful listed
  exact ⟨endpoint, listed, path, query, faithful.1 (by simp [path]), faithful.2 (by simp [query])⟩

end SwaggerSdk.Sdk
