import SwaggerSdk.Yaml.Core
import SwaggerSdk.Yaml.Cursor

/-!
# Writing texts as scalars

A text is written in the plainest form that reads back as that text: plain, else in single quotes, else in
double quotes with escapes. Several lines become a literal block where nothing would get lost in it.
-/

namespace SwaggerSdk.Yaml

inductive Form where
  | plain | singleQuoted | doubleQuoted | literal
  deriving DecidableEq, Repr, Inhabited

def indentWidth : Nat := 2

def isPrintable (c : Char) : Bool :=
  c == '\n' || (' ' ≤ c && c ≤ '~') ||
    ('\u00a0' ≤ c && c != '\ufeff' && c != '\ufffe' && c != '\uffff')

def isSpaceOrBreak (c : Char) : Bool := c == ' ' || isBreak c

def indicators : List Char :=
  ['#', ',', '[', ']', '\x7b', '\x7d', '&', '*', '!', '|', '>', '\'', '"', '%', '@', '\x60']

/-- The characters with which a plain scalar begins only if it goes on at once. -/
def looseIndicators : List Char := ['?', ':', '-']

def beginsWithIndicator : List Char → Bool
  | '-' :: '-' :: '-' :: _ | '.' :: '.' :: '.' :: _ => true
  | c :: s => indicators.contains c || (looseIndicators.contains c && atGap s)
  | [] => false

def holdsIndicator : Char → List Char → Bool
  | _, [] => false
  | last, c :: s => (c == ':' && atGap s) || (c == '#' && isGap last) || holdsIndicator c s

def hasPair (p q : Char → Bool) (s : List Char) : Bool :=
  (s.zip s.tail).any fun pair => p pair.1 && q pair.2

def hasSpaceBeforeBreak (s : List Char) : Bool := hasPair (· == ' ') isBreak s

def hasSpaceAfterBreak (s : List Char) : Bool := hasPair isBreak (· == ' ') s

def fitsPlain (s : List Char) : Bool :=
  s.all (fun c => isPrintable c && !isBreak c) && !s.head?.any (· == ' ') && !s.getLast?.any (· == ' ') &&
    !beginsWithIndicator s && !holdsIndicator (s.headD ' ') s.tail

def fitsSingle (s : List Char) : Bool :=
  s.all isPrintable && !hasSpaceBeforeBreak s && !hasSpaceAfterBreak s

def fitsLiteral (s : List Char) : Bool :=
  s.all isPrintable && !hasSpaceBeforeBreak s && !s.getLast?.any (· == ' ')

def readsAsText (text : String) : Bool :=
  !isZeroPadded text.toList &&
    match plainValue? text with
    | some (.text _) => true
    | _ => false

def formOf (text : String) : Form :=
  let s := text.toList
  if s.contains '\n' then (if fitsLiteral s then .literal else .doubleQuoted)
  else if readsAsText text && fitsPlain s then .plain
  else if fitsSingle s then .singleQuoted
  else .doubleQuoted

def capitalHex : Nat → Nat → List Char
  | 0, _ => []
  | count + 1, code => capitalHex count (code / 16) ++ [(Nat.digitChar (code % 16)).toUpper]

def escapeCode (c : Char) : List Char :=
  if c.toNat < 0x100 then 'x' :: capitalHex 2 c.toNat
  else if c.toNat < 0x10000 then 'u' :: capitalHex 4 c.toNat
  else 'U' :: capitalHex 8 c.toNat

def escapeName (c : Char) : List Char :=
  match c with
  | '\x00' => ['0']
  | '\x07' => ['a']
  | '\x08' => ['b']
  | '\t' => ['t']
  | '\n' => ['n']
  | '\x0b' => ['v']
  | '\x0c' => ['f']
  | '\r' => ['r']
  | '\x1b' => ['e']
  | '"' => ['"']
  | '\\' => ['\\']
  | '\u0085' => ['N']
  | '\u2028' => ['L']
  | '\u2029' => ['P']
  | c => escapeCode c

def escapeChar (c : Char) : List Char :=
  if isPrintable c && !isBreak c && c != '"' && c != '\\' then [c] else '\\' :: escapeName c

def doubleQuote (c : Char) : List Char := if c == '\'' then ['\'', '\''] else [c]

def indentation (indent : Nat) : List Char := List.replicate indent ' '

def indentLines (indent : Nat) : Bool → List Char → List Char
  | _, [] => []
  | atStart, c :: s =>
    if isBreak c then c :: indentLines indent true s
    else (if atStart then indentation indent else []) ++ c :: indentLines indent false s

def endsLine (s : List Char) : Bool := s.getLast?.any isBreak

def literalHead (s : List Char) : List Char :=
  -- the depth is given where the first line does not show it
  let depth := if s.head?.any isSpaceOrBreak then Nat.toDigits 10 indentWidth else []
  let ending :=
    if !endsLine s then ['-']
    else if endsLine s.dropLast || s.dropLast.isEmpty then ['+']
    else []
  '|' :: (depth ++ ending ++ ['\n'])

def singleQuotedChars (indent : Nat) (s : List Char) : List Char :=
  let closing := if endsLine s then indentation indent else []
  '\'' :: (indentLines indent false (s.flatMap doubleQuote) ++ closing ++ ['\''])

/-- A text as a scalar up to the end of its last line, where further lines are indented that much. -/
def scalarChars (indent : Nat) (text : String) : List Char :=
  let s := text.toList
  match formOf text with
  | .plain => s ++ ['\n']
  | .singleQuoted => singleQuotedChars indent s ++ ['\n']
  | .doubleQuoted => '"' :: (s.flatMap escapeChar ++ ['"', '\n'])
  | .literal => literalHead s ++ indentLines indent true s ++ (if endsLine s then [] else ['\n'])

end SwaggerSdk.Yaml
