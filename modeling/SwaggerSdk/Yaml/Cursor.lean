/-!
# Places in a YAML text

Blanks and line breaks, and a cursor that knows its line and column. A gap is a run of blanks and breaks;
inside a scalar it is folded: one break reads as a space, further breaks stay.
-/

namespace SwaggerSdk.Yaml

def isBlank (c : Char) : Bool := c == ' ' || c == '\t'

def isBreak (c : Char) : Bool :=
  c == '\n' || c == '\r' || c == '\u0085' || c == '\u2028' || c == '\u2029'

def isGap (c : Char) : Bool := isBlank c || isBreak c

def atGap : List Char → Bool
  | [] => true
  | c :: _ => isGap c

def atBreak : List Char → Bool
  | [] => true
  | c :: _ => isBreak c

def breakSize : List Char → Nat
  | '\r' :: '\n' :: _ => 2
  | c :: _ => if isBreak c then 1 else 0
  | [] => 0

/-- A break as scalars keep it: the separators of Unicode stay, any other is a line feed. -/
def keptBreak (c : Char) : Char := if c == '\u2028' || c == '\u2029' then c else '\n'

def breaks : List Char → List Char
  | [] => []
  | '\r' :: '\n' :: s => '\n' :: breaks s
  | c :: s => if isBreak c then keptBreak c :: breaks s else breaks s

/-- Breaks as they are folded: a lone line feed becomes a space, and the first of several vanishes. -/
def foldBreaks : List Char → List Char
  | ['\n'] => [' ']
  | '\n' :: more => more
  | kept => kept

def foldGap (gap : List Char) : List Char :=
  match breaks gap with
  | [] => gap
  | lines => foldBreaks lines

def atDocumentMark : List Char → Bool
  | '-' :: '-' :: '-' :: rest => atGap rest
  | '.' :: '.' :: '.' :: rest => atGap rest
  | _ => false

structure Cursor where
  rest : List Char
  offset : Nat
  line : Nat
  column : Nat
  deriving Repr, Inhabited

namespace Cursor

def start (text : List Char) : Cursor := ⟨text, 0, 0, 0⟩

def next (cursor : Cursor) : Cursor :=
  match cursor.rest with
  | [] => cursor
  -- the line ends with the second of the two
  | '\r' :: '\n' :: rest => { cursor with rest := '\n' :: rest, offset := cursor.offset + 1 }
  | c :: rest =>
    if isBreak c then ⟨rest, cursor.offset + 1, cursor.line + 1, 0⟩
    else ⟨rest, cursor.offset + 1, cursor.line, cursor.column + 1⟩

def advance : Nat → Cursor → Cursor
  | 0, cursor => cursor
  | count + 1, cursor => advance count cursor.next

def takeWhile (p : Char → Bool) (cursor : Cursor) : List Char × Cursor :=
  let taken := cursor.rest.takeWhile p
  (taken, cursor.advance taken.length)

def skipWhile (p : Char → Bool) (cursor : Cursor) : Cursor := (cursor.takeWhile p).2

def skipBreak (cursor : Cursor) : Cursor := cursor.advance (breakSize cursor.rest)

def endLine? (cursor : Cursor) : Option Cursor :=
  let cursor := cursor.skipWhile isBlank
  let cursor := if cursor.rest.head? == some '#' then cursor.skipWhile (!isBreak ·) else cursor
  if atBreak cursor.rest then some cursor.skipBreak else none

end Cursor

end SwaggerSdk.Yaml
