import SwaggerSdk.Text.Characters
import SwaggerSdk.Yaml.Cursor

/-!
# Scalars within lines

Plain and quoted scalars. Both are words with gaps between them, and the gaps are folded; they differ in
what a word may hold and in how the scalar ends.
-/

namespace SwaggerSdk.Yaml

structure Scanned where
  text : List Char
  behind : Cursor

def isFlowIndicator (c : Char) : Bool :=
  c == ',' || c == '[' || c == ']' || c == '\x7b' || c == '\x7d'

def isMisplacedColon (c : Char) (next : List Char) : Bool :=
  c == ':' && next.head?.any fun d => isFlowIndicator d || d == '?'

def plainWord (inFlow : Bool) : List Char → Option (List Char)
  | [] => some []
  | c :: s =>
    if isGap c then some []
    else if inFlow && isMisplacedColon c s then none
    else if (c == ':' && atGap s) || (inFlow && isFlowIndicator c) then some []
    else (plainWord inFlow s).map (c :: ·)

/-- Whether a gap holds a tab that a line would be indented with; `column` is that of the gap's beginning
if it is on a new line. -/
def hasIndentingTab (indent : Nat) : Option Nat → List Char → Bool
  | _, [] => false
  | column?, c :: s =>
    if isBreak c then hasIndentingTab indent (some 0) s
    else
      (c == '\t' && column?.any (· < indent)) || hasIndentingTab indent (column?.map (· + 1)) s

/-- Reads the words of a plain scalar that lines indented by less than `indent` do not belong to. `pending`
is the gap before the next word; the flag tells whether a new line has begun behind the scalar. -/
def scanPlainWords (inFlow : Bool) (indent : Nat) :
    Nat → Cursor → List Char → List Char → Option (Scanned × Bool)
  | 0, _, _, _ => none
  | fuel + 1, cursor, text, pending =>
    let finished := some (⟨text, cursor⟩, pending.any isBreak)
    if (cursor.column == 0 && atDocumentMark cursor.rest) || cursor.rest.head? == some '#' then finished
    else do
      let word ← plainWord inFlow cursor.rest
      if word.isEmpty then finished
      else
        let text := text ++ foldGap pending ++ word
        let (gap, behind) := (cursor.advance word.length).takeWhile isGap
        if hasIndentingTab indent none gap then none
        else if gap.isEmpty || (!inFlow && behind.column < indent) then
          return (⟨text, behind⟩, gap.any isBreak)
        else scanPlainWords inFlow indent fuel behind text gap

def scanPlain (inFlow : Bool) (indent : Nat) (cursor : Cursor) : Option (Scanned × Bool) :=
  scanPlainWords inFlow indent (cursor.rest.length + 1) cursor [] []

structure Stretch where
  text : List Char
  size : Nat
  joinsLines : Bool

namespace Stretch

def empty : Stretch := ⟨[], 0, false⟩

def cons (c : Char) (size : Nat) (stretch : Stretch) : Stretch :=
  ⟨c :: stretch.text, size + stretch.size, stretch.joinsLines⟩

end Stretch

def singleStretch : List Char → Option Stretch
  | '\'' :: '\'' :: s => (singleStretch s).map (.cons '\'' 2)
  | c :: s => if isGap c || c == '\'' then some .empty else (singleStretch s).map (.cons c 1)
  | [] => some .empty

def escaped? : Char → Option Char
  | '0' => some '\x00'
  | 'a' => some '\x07'
  | 'b' => some '\x08'
  | 't' | '\t' => some '\t'
  | 'n' => some '\n'
  | 'v' => some '\x0b'
  | 'f' => some '\x0c'
  | 'r' => some '\r'
  | 'e' => some '\x1b'
  | ' ' => some ' '
  | '"' => some '"'
  | '/' => some '/'
  | '\\' => some '\\'
  | 'N' => some '\u0085'
  | '_' => some '\u00a0'
  | 'L' => some '\u2028'
  | 'P' => some '\u2029'
  | _ => none

def codedChar? (digits : List Char) : Option Char := do
  let code ← Text.hexValue? digits
  if code.isValidChar then some (Char.ofNat code) else none

def doubleStretch : List Char → Option Stretch
  | '\\' :: 'x' :: a :: b :: s => do return (← doubleStretch s).cons (← codedChar? [a, b]) 4
  | '\\' :: 'u' :: a :: b :: c :: d :: s => do
    return (← doubleStretch s).cons (← codedChar? [a, b, c, d]) 6
  | '\\' :: 'U' :: a :: b :: c :: d :: e :: f :: g :: h :: s => do
    return (← doubleStretch s).cons (← codedChar? [a, b, c, d, e, f, g, h]) 10
  | '\\' :: c :: s =>
    if isBreak c then some ⟨[], 1 + breakSize (c :: s), true⟩
    else do return (← doubleStretch s).cons (← escaped? c) 2
  | ['\\'] => none
  | c :: s => if isGap c || c == '"' then some .empty else (doubleStretch s).map (.cons c 1)
  | [] => some .empty

def scanStretches (quote : Char) (stretch : List Char → Option Stretch) :
    Nat → Cursor → List Char → Option Scanned
  | 0, _, _ => none
  | fuel + 1, cursor, text =>
    if cursor.rest.isEmpty || (cursor.column == 0 && atDocumentMark cursor.rest) then none
    else do
      let stretch' ← stretch cursor.rest
      let text := text ++ stretch'.text
      let cursor := cursor.advance stretch'.size
      if cursor.rest.head? == some quote then return ⟨text, cursor.next⟩
      else
        let (gap, behind) := cursor.takeWhile isGap
        let joint := if stretch'.joinsLines then breaks gap else foldGap gap
        scanStretches quote stretch fuel behind (text ++ joint)

def scanQuoted (quote : Char) (cursor : Cursor) : Option Scanned :=
  let stretch := if quote == '"' then doubleStretch else singleStretch
  scanStretches quote stretch (cursor.rest.length + 1) cursor.next []

end SwaggerSdk.Yaml
