import Mathlib.Data.List.Nodup
import SwaggerSdk.Sdk.Source

/-!
# Names and scopes

Generated code as lines of tokens: a token is plain text, or it declares a name, or refers to one, or is where a scope
begins or ends. A declaration holds in the whole of its scope. A reference is linked to the innermost scope around it
that declares its name.

Spelling the names as texts is hygienic if no scope declares a spelling twice and each reference keeps its link.
`hygienic_iff` says which names have to be spelled differently for that. Types and values share one namespace here, by
choice: a language that keeps the two apart accepts a value that is spelled like an imported type, but whoever reads the
code meets one name for two things.
-/

namespace SwaggerSdk.Sdk

inductive Token (ν : Type) where
  | text (literal : String)
  | declares (name : ν)
  | refers (name : ν)
  | enter
  | leave

/-- A name in code: its own, or one that it is given. -/
inductive SourceName (κ : Type) where
  | own (spelling : String)
  | given (key : κ)
  deriving DecidableEq

def SourceName.spelled {κ : Type} (spell : κ → String) : SourceName κ → String
  | own spelling => spelling
  | given key => spell key

/-- Names are spelled alike only if they are the same, or one is given and the other is not. -/
theorem SourceName.eq_or_exists_given {κ : Type} {spell : κ → String} (injective : Function.Injective spell)
    {name name' : SourceName κ} (same : name.spelled spell = name'.spelled spell) :
    name = name' ∨ ∃ key, (name = .own (spell key) ∧ name' = .given key) ∨
      (name = .given key ∧ name' = .own (spell key)) := by
  cases name with
  | own spelling =>
    cases name' with
    | own spelling' => exact .inl (congrArg own same)
    | given key => exact .inr ⟨key, .inl ⟨congrArg own same, rfl⟩⟩
  | given key =>
    cases name' with
    | own spelling' => exact .inr ⟨key, .inr ⟨rfl, congrArg own same.symm⟩⟩
    | given key' => exact .inl (congrArg given (injective same))

namespace Token

variable {κ : Type}

def binds (spelling : String) : Token (SourceName κ) := declares (.own spelling)

def own (spelling : String) : Token (SourceName κ) := refers (.own spelling)

end Token

abbrev Code (ν : Type) := List (List (Token ν))

/-! ### The text of code -/

section Text

variable {ν : Type} (spell : ν → String)

def Token.spelled : Token ν → String
  | text literal => literal
  | declares name | refers name => spell name
  | enter | leave => ""

def spelledLine (line : List (Token ν)) : String := String.join (line.map (Token.spelled spell))

namespace Code

def lines (code : Code ν) : Lines := code.map (spelledLine spell)

def indent (code : Code ν) : Code ν := code.map (.text "  " :: ·)

/-- A body in braces, with what stands before it and behind it. -/
def block (tail head : List (Token ν)) (body : Code ν) : Code ν :=
  (head ++ [.text " \x7b"]) :: indent body ++ [.text "\x7d" :: tail]

def verbatim (lines : Lines) : Code ν := lines.map ([.text ·])

@[simp] theorem lines_nil : lines spell ([] : Code ν) = [] := rfl

@[simp] theorem lines_cons (line : List (Token ν)) (code : Code ν) :
    lines spell (line :: code) = spelledLine spell line :: lines spell code := rfl

theorem spelledLine_cons (token : Token ν) (line : List (Token ν)) :
    spelledLine spell (token :: line) = token.spelled spell ++ spelledLine spell line := by
  simp [spelledLine]

theorem spelledLine_append (line line' : List (Token ν)) :
    spelledLine spell (line ++ line') = spelledLine spell line ++ spelledLine spell line' := by
  simp [spelledLine]

@[simp] theorem lines_append (code code' : Code ν) :
    lines spell (code ++ code') = lines spell code ++ lines spell code' := List.map_append

@[simp] theorem lines_indent (code : Code ν) : lines spell code.indent = Lines.indent (lines spell code) := by
  simp only [lines, indent, Lines.indent, List.map_map]
  exact List.map_congr_left fun line _ => spelledLine_cons spell (.text "  ") line

@[simp] theorem lines_block (tail head : List (Token ν)) (body : Code ν) :
    lines spell (block tail head body) =
      blockThen (spelledLine spell tail) (spelledLine spell head) (lines spell body) := by
  have opening : spelledLine spell (head ++ [.text " \x7b"]) = spelledLine spell head ++ " \x7b" :=
    spelledLine_append spell head _
  have closing : spelledLine spell (.text "\x7d" :: tail) = "\x7d" ++ spelledLine spell tail :=
    spelledLine_cons spell _ tail
  rw [block, blockThen, ← lines_indent, ← opening, ← closing]
  simp [lines]

@[simp] theorem lines_verbatim (plain : Lines) : lines spell (verbatim plain) = plain := by
  have single (line : String) : spelledLine spell [.text line] = line := by simp [spelledLine, Token.spelled]
  simp [lines, verbatim, Function.comp_def, single]

end Code

end Text

/-! ### The uses of names -/

/-- A use of a name, with the scopes around it, the innermost first. -/
structure Use (ν : Type) where
  scopes : List Nat
  isDeclaration : Bool
  name : ν

section Uses

variable {ν μ : Type}

/-- The uses of names in tokens that stand in these scopes; the next scope gets the given number. -/
def usesFrom (scopes : List Nat) (next : Nat) : List (Token ν) → List (Use ν)
  | [] => []
  | .text _ :: tokens => usesFrom scopes next tokens
  | .declares name :: tokens => ⟨scopes, true, name⟩ :: usesFrom scopes next tokens
  | .refers name :: tokens => ⟨scopes, false, name⟩ :: usesFrom scopes next tokens
  | .enter :: tokens => usesFrom (next :: scopes) (next + 1) tokens
  | .leave :: tokens => usesFrom scopes.tail next tokens

/-- The uses of names in a module, whose own scope has the number 0. -/
def Code.uses (code : Code ν) : List (Use ν) := usesFrom [0] 1 code.flatten

theorem usesFrom_verbatim_append (plain : Lines) (code : Code ν) (scopes : List Nat) (next : Nat) :
    usesFrom scopes next (Code.verbatim plain ++ code).flatten = usesFrom scopes next code.flatten := by
  induction plain with
  | nil => rfl
  | cons line plain ih => exact ih

def Use.declaration? (use : Use ν) : Option (Nat × ν) :=
  if use.isDeclaration then use.scopes.head?.map (·, use.name) else none

/-- What the scopes declare. -/
def declaredIn (uses : List (Use ν)) : List (Nat × ν) := uses.filterMap Use.declaration?

def referencesIn (uses : List (Use ν)) : List (Use ν) := uses.filter (!·.isDeclaration)

theorem declaredIn_append (uses uses' : List (Use ν)) :
    declaredIn (uses ++ uses') = declaredIn uses ++ declaredIn uses' := List.filterMap_append

variable [DecidableEq ν]

/-- The innermost scope around a use that declares its name; names that no scope declares are free. -/
def Use.link? (declared : List (Nat × ν)) (use : Use ν) : Option Nat :=
  use.scopes.find? fun scope => (scope, use.name) ∈ declared

def links (uses : List (Use ν)) : List (Option Nat) := (referencesIn uses).map (Use.link? (declaredIn uses))

/-- The scopes in which a name is looked up in vain. -/
def Use.passed (declared : List (Nat × ν)) (use : Use ν) : List Nat :=
  use.scopes.takeWhile fun scope => (scope, use.name) ∉ declared

end Uses

/-! ### Spelling names -/

section Spelling

variable {ν μ : Type}

def Token.map (f : ν → μ) : Token ν → Token μ
  | text literal => .text literal
  | declares name => .declares (f name)
  | refers name => .refers (f name)
  | enter => .enter
  | leave => .leave

def Code.map (f : ν → μ) (code : Code ν) : Code μ := List.map (List.map (Token.map f)) code

def Use.map (f : ν → μ) (use : Use ν) : Use μ := ⟨use.scopes, use.isDeclaration, f use.name⟩

theorem usesFrom_map (f : ν → μ) (scopes : List Nat) (next : Nat) (tokens : List (Token ν)) :
    usesFrom scopes next (tokens.map (Token.map f)) = (usesFrom scopes next tokens).map (Use.map f) := by
  induction tokens generalizing scopes next with
  | nil => rfl
  | cons token tokens ih => cases token <;> simp only [List.map_cons, Token.map, usesFrom, Use.map, ih]

theorem Code.uses_map (f : ν → μ) (code : Code ν) : (code.map f).uses = code.uses.map (Use.map f) := by
  rw [uses, Code.map, ← List.map_flatten, usesFrom_map, uses]

theorem declaredIn_map (f : ν → μ) (uses : List (Use ν)) :
    declaredIn (uses.map (Use.map f)) = (declaredIn uses).map (Prod.map id f) := by
  rw [declaredIn, declaredIn, List.filterMap_map, List.map_filterMap]
  refine congrArg (List.filterMap · uses) (funext fun use => ?_)
  cases declares : use.isDeclaration <;> simp [Use.declaration?, Use.map, declares, Function.comp_def]

theorem referencesIn_map (f : ν → μ) (uses : List (Use ν)) :
    referencesIn (uses.map (Use.map f)) = (referencesIn uses).map (Use.map f) := by
  rw [referencesIn, referencesIn, List.filter_map]
  rfl

variable [DecidableEq ν]

/-- Names can be spelled so: no scope declares a spelling twice, and references are linked as before. -/
structure Hygienic (code : Code ν) (spell : ν → String) : Prop where
  declaredOnce : (declaredIn (code.map spell).uses).Nodup
  linked : links (code.map spell).uses = links code.uses

theorem find?_eq_find?_iff {p q : Nat → Bool} (weaker : ∀ scope, p scope → q scope) (scopes : List Nat) :
    scopes.find? q = scopes.find? p ↔ ∀ scope ∈ scopes.takeWhile (!p ·), q scope = false := by
  induction scopes with
  | nil => simp
  | cons scope scopes ih =>
    cases here : p scope with
    | true => simp [here, weaker scope here]
    | false =>
      cases found : q scope with
      | false => simpa [here, found] using ih
      | true =>
        have elsewhere : scopes.find? p ≠ some scope := fun same => by
          rw [List.find?_some same] at here
          cases here
        simp [here, found, elsewhere.symm]

/-- The link is kept if no scope that is passed declares a name that is spelled like the one looked up. -/
theorem link?_map_iff (f : ν → String) (declared : List (Nat × ν)) (use : Use ν) :
    (use.map f).link? (declared.map (Prod.map id f)) = use.link? declared ↔
      ∀ scope ∈ use.passed declared, ∀ other ∈ declared, other.1 = scope → f use.name ≠ f other.2 := by
  have weaker : ∀ scope, (decide ((scope, use.name) ∈ declared)) = true →
      decide ((scope, f use.name) ∈ declared.map (Prod.map id f)) = true := by
    intro scope listed
    rw [decide_eq_true_eq] at listed ⊢
    exact List.mem_map_of_mem listed
  have passed : use.passed declared = use.scopes.takeWhile fun scope => !decide ((scope, use.name) ∈ declared) := by
    simp only [Use.passed, decide_not]
  rw [passed]
  refine (find?_eq_find?_iff weaker use.scopes).trans (forall₂_congr fun scope _ => ?_)
  rw [decide_eq_false_iff_not, List.mem_map, not_exists]
  constructor
  · rintro fresh other listed rfl same
    exact fresh other ⟨listed, Prod.ext rfl same.symm⟩
  · rintro fresh other ⟨listed, same⟩
    exact fresh other listed (congrArg Prod.fst same) (congrArg Prod.snd same).symm

/-- Names are spelled differently if one scope declares both, and no reference passes a scope that declares a name which is
spelled like the one it looks up. -/
structure KeptApart (uses : List (Use ν)) (spell : ν → String) : Prop where
  declared : ∀ here ∈ declaredIn uses, ∀ other ∈ declaredIn uses, other.1 = here.1 → other.2 ≠ here.2 →
    spell here.2 ≠ spell other.2
  passed : ∀ use ∈ referencesIn uses, ∀ scope ∈ use.passed (declaredIn uses), ∀ other ∈ declaredIn uses,
    other.1 = scope → spell use.name ≠ spell other.2

theorem hygienic_iff_keptApart {code : Code ν} (once : (declaredIn code.uses).Nodup) (spell : ν → String) :
    Hygienic code spell ↔ KeptApart code.uses spell := by
  have distinct : (declaredIn (code.map spell).uses).Nodup ↔
      ∀ here ∈ declaredIn code.uses, ∀ other ∈ declaredIn code.uses, other.1 = here.1 → other.2 ≠ here.2 →
        spell here.2 ≠ spell other.2 := by
    rw [Code.uses_map, declaredIn_map, List.nodup_map_iff_inj_on once]
    refine forall₄_congr fun here _ other _ => ?_
    constructor
    · intro injective scope names same
      exact names (congrArg Prod.snd (injective (Prod.ext scope.symm same))).symm
    · intro apart same
      obtain ⟨scope, spelled⟩ := Prod.ext_iff.mp same
      by_contra different
      exact apart scope.symm (fun name => different (Prod.ext scope name.symm)) spelled
  have linked : links (code.map spell).uses = links code.uses ↔
      ∀ use ∈ referencesIn code.uses, ∀ scope ∈ use.passed (declaredIn code.uses),
        ∀ other ∈ declaredIn code.uses, other.1 = scope → spell use.name ≠ spell other.2 := by
    rw [links, links, Code.uses_map, referencesIn_map, declaredIn_map, List.map_map, List.map_inj_left]
    exact forall₂_congr fun use _ => link?_map_iff spell _ use
  constructor
  · rintro ⟨declaredOnce, kept⟩
    exact ⟨distinct.mp declaredOnce, linked.mp kept⟩
  · rintro ⟨declared, passed⟩
    exact ⟨distinct.mpr declared, linked.mpr passed⟩

/-- The pairs of names that have to be spelled differently. -/
def clashes (uses : List (Use ν)) : List (ν × ν) :=
  let declared := declaredIn uses
  (declared.flatMap fun here => (declared.filter fun other => other.1 = here.1 ∧ other.2 ≠ here.2).map fun other =>
    (here.2, other.2)) ++
  (referencesIn uses).flatMap fun use => (use.passed declared).flatMap fun scope =>
    (declared.filter (·.1 = scope)).map fun other => (use.name, other.2)

theorem keptApart_iff {uses : List (Use ν)} {spell : ν → String} :
    KeptApart uses spell ↔ ∀ pair ∈ clashes uses, spell pair.1 ≠ spell pair.2 := by
  rw [clashes, List.forall_mem_append]
  simp only [List.forall_mem_flatMap, List.forall_mem_map, List.mem_filter, decide_eq_true_eq, and_imp]
  exact ⟨fun apart => ⟨apart.declared, apart.passed⟩, fun both => ⟨both.1, both.2⟩⟩

theorem hygienic_iff {code : Code ν} (once : (declaredIn code.uses).Nodup) (spell : ν → String) :
    Hygienic code spell ↔ ∀ pair ∈ clashes code.uses, spell pair.1 ≠ spell pair.2 :=
  (hygienic_iff_keptApart once spell).trans keptApart_iff

end Spelling

end SwaggerSdk.Sdk
