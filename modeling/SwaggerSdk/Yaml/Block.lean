import SwaggerSdk.Yaml.Flow

/-!
# Block scalars

Scalars over several indented lines. A literal one keeps its breaks; a folded one joins adjacent lines that
do not begin with a blank. The header may fix the indentation and says what happens to the last breaks.
-/

namespace SwaggerSdk.Yaml

inductive Chomping where
  | clip | strip | keep
  deriving DecidableEq, Repr, Inhabited

structure BlockHeader where
  chomping : Chomping
  /-- By how much the scalar is indented, if the header says so. -/
  increment : Option Nat
  deriving Repr, Inhabited

def chomping? : Char → Option Chomping
  | '+' => some .keep
  | '-' => some .strip
  | _ => none

def increment? (c : Char) : Option Nat := if c.isDigit then some (c.toNat - '0'.toNat) else none

def readPart {α : Type} (part? : Char → Option α) (cursor : Cursor) : Option α × Cursor :=
  match cursor.rest.head?.bind part? with
  | some part => (some part, cursor.next)
  | none => (none, cursor)

def scanBlockHeader (cursor : Cursor) : Option (BlockHeader × Cursor) := do
  let (before, cursor) := readPart chomping? cursor
  let (increment, cursor) := readPart increment? cursor
  -- the two parts may come in either order
  let (behind, cursor) := if before.isSome || increment.isNone then (none, cursor)
    else readPart chomping? cursor
  if increment == some 0 then none
  else
    let cursor ← cursor.endLine?
    return (⟨(before.or behind).getD .clip, increment⟩, cursor)

structure EmptyLines where
  breaks : List Char
  indentation : Nat
  behind : Cursor

def scanEmptyLines (indent? : Option Nat) : Nat → Cursor → Option EmptyLines
  | 0, _ => none
  | fuel + 1, cursor =>
    let spaces := (cursor.rest.takeWhile (· == ' ')).length
    let cursor := cursor.advance (match indent? with
      | some indent => min spaces (indent - cursor.column)
      | none => spaces)
    let isIndentation := indent?.all (cursor.column < ·)
    match cursor.rest with
    | [] => some ⟨[], cursor.column, cursor⟩
    | c :: _ =>
      -- a tab may not stand in the indentation
      if isIndentation && c == '\t' then none
      else if isBreak c then do
        let more ← scanEmptyLines indent? fuel cursor.skipBreak
        return { more with
          breaks := keptBreak c :: more.breaks
          indentation := max cursor.column more.indentation }
      else some ⟨[], cursor.column, cursor⟩

/-- The breaks behind a line of a scalar: the one that ends it, and those of the empty lines that follow. -/
structure LineEnd where
  first : List Char
  more : List Char
  isIndented : Bool

def LineEnd.join (isLiteral : Bool) (lineEnd : LineEnd) (nextIsIndented : Bool) : List Char :=
  if !isLiteral && lineEnd.first == ['\n'] && !lineEnd.isIndented && !nextIsIndented then
    if lineEnd.more.isEmpty then [' '] else lineEnd.more
  else lineEnd.first ++ lineEnd.more

def LineEnd.chomp (chomping : Chomping) (lineEnd : LineEnd) : List Char :=
  match chomping with
  | .strip => []
  | .clip => lineEnd.first
  | .keep => lineEnd.first ++ lineEnd.more

def scanBlockLines (isLiteral : Bool) (chomping : Chomping) (indent : Nat) :
    Nat → Cursor → List Char → LineEnd → Option Scanned
  | 0, _, _, _ => none
  | fuel + 1, cursor, text, before =>
    if cursor.column != indent || cursor.rest.isEmpty then
      some ⟨text ++ before.chomp chomping, cursor⟩
    else do
      let isIndented := cursor.rest.head?.any isBlank
      let (line, behind) := cursor.takeWhile (!isBreak ·)
      let first := (behind.rest.head?.map keptBreak).toList
      let lines ← scanEmptyLines (some indent) (behind.rest.length + 1) behind.skipBreak
      scanBlockLines isLiteral chomping indent fuel lines.behind
        (text ++ before.join isLiteral isIndented ++ line) ⟨first, lines.breaks, isIndented⟩

def scanBlock (isLiteral : Bool) (around : Option Nat) (cursor : Cursor) : Option Scanned := do
  let (header, cursor) ← scanBlockHeader cursor
  let given := header.increment.map (around.getD 0 + ·)
  let lines ← scanEmptyLines given (cursor.rest.length + 1) cursor
  let least := match around with
    | some column => column + 1
    | none => 1
  let indent := given.getD (max lines.indentation least)
  scanBlockLines isLiteral header.chomping indent (cursor.rest.length + 1) lines.behind []
    ⟨[], lines.breaks, false⟩

end SwaggerSdk.Yaml
