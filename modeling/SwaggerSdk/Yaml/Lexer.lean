import SwaggerSdk.Yaml.Block
import SwaggerSdk.Yaml.Property

/-!
# From text to tokens

Block collections begin where a line is indented further and end where one is indented less. Whether
something is a key shows only at the colon behind it, so every place where a key may begin is remembered
until then; a key takes one line and at most 1024 characters.
-/

namespace SwaggerSdk.Yaml

structure PossibleKey where
  isRequired : Bool
  position : Nat
  offset : Nat
  line : Nat
  column : Nat
  deriving Repr, Inhabited

structure Lexer where
  cursor : Cursor
  tokens : Array Token
  /-- The columns of the open block collections, the innermost first. -/
  indents : List Nat
  keyAllowed : Bool
  key : Option PossibleKey
  /-- What the key was in the collections around the flow collections that are open. -/
  outerKeys : List (Option PossibleKey)

namespace Lexer

def start (text : List Char) : Lexer := ⟨.start text, #[], [], true, none, []⟩

def inFlow (lexer : Lexer) : Bool := !lexer.outerKeys.isEmpty

def emit (lexer : Lexer) (token : Token) : Lexer := { lexer with tokens := lexer.tokens.push token }

def emitOver (lexer : Lexer) (size : Nat) (token : Token) : Lexer :=
  { lexer.emit token with cursor := lexer.cursor.advance size }

def allowKey (lexer : Lexer) (allowed : Bool) : Lexer := { lexer with keyAllowed := allowed }

def endBlocks (lexer : Lexer) (p : Nat → Bool) : Lexer :=
  let ended := lexer.indents.takeWhile p
  { lexer with
    tokens := lexer.tokens ++ Array.replicate ended.length Token.blockEnd
    indents := lexer.indents.drop ended.length }

def unindent (lexer : Lexer) : Lexer :=
  if lexer.inFlow then lexer else lexer.endBlocks (lexer.cursor.column < ·)

def unindentAll (lexer : Lexer) : Lexer :=
  if lexer.inFlow then lexer else lexer.endBlocks fun _ => true

/-- Begins a block collection, with a token at a position, if the column is right of the current one. -/
def indent (lexer : Lexer) (column position : Nat) (token : Token) : Lexer :=
  if lexer.inFlow || lexer.indents.head?.any (column ≤ ·) then lexer
  else { lexer with
    tokens := lexer.tokens.insertIdxIfInBounds position token
    indents := column :: lexer.indents }

def indentHere (lexer : Lexer) (token : Token) : Lexer :=
  lexer.indent lexer.cursor.column lexer.tokens.size token

/-- A place where a key may have begun is given up, unless a key is required there. -/
def dropKey (lexer : Lexer) : Option Lexer :=
  if lexer.key.any (·.isRequired) then none else some { lexer with key := none }

def isStale (cursor : Cursor) (key : PossibleKey) : Bool :=
  key.line < cursor.line || key.offset + 1024 < cursor.offset

def dropStaleKeys (lexer : Lexer) : Option Lexer :=
  let isStale := isStale lexer.cursor
  if (lexer.key :: lexer.outerKeys).any (·.any fun key => key.isRequired && isStale key) then none
  else some { lexer with
    key := lexer.key.filter (!isStale ·)
    outerKeys := lexer.outerKeys.map (·.filter (!isStale ·)) }

def saveKey (lexer : Lexer) : Option Lexer :=
  if lexer.keyAllowed then do
    let lexer ← lexer.dropKey
    let cursor := lexer.cursor
    let isRequired := !lexer.inFlow && lexer.indents.head? == some cursor.column
    return { lexer with
      key := some ⟨isRequired, lexer.tokens.size, cursor.offset, cursor.line, cursor.column⟩ }
  else some lexer

def skipGaps : Nat → Lexer → Lexer
  | 0, lexer => lexer
  | fuel + 1, lexer =>
    let cursor := lexer.cursor
    let cursor := if cursor.column == 0 && cursor.rest.head? == some '\ufeff' then cursor.next else cursor
    -- where a key may begin a tab is no blank, unless it is inside a flow collection
    let tabs := lexer.inFlow || !lexer.keyAllowed
    let cursor := cursor.skipWhile fun c => c == ' ' || (tabs && c == '\t')
    let cursor := if cursor.rest.head? == some '#' then cursor.skipWhile (!isBreak ·) else cursor
    if cursor.rest.head?.any isBreak then
      skipGaps fuel { lexer with
        cursor := cursor.skipBreak
        keyAllowed := lexer.keyAllowed || !lexer.inFlow }
    else { lexer with cursor }

def directive (lexer : Lexer) : Option Lexer := do
  let lexer ← lexer.unindentAll.dropKey
  let (token, cursor) ← scanDirective lexer.cursor
  return { (lexer.emit token).allowKey false with cursor }

def documentMark (token : Token) (lexer : Lexer) : Option Lexer := do
  return ((← lexer.unindentAll.dropKey).allowKey false).emitOver 3 token

def openFlow (token : Token) (lexer : Lexer) : Option Lexer := do
  let lexer ← lexer.saveKey
  return { (lexer.allowKey true).emitOver 1 token with
    key := none
    outerKeys := lexer.key :: lexer.outerKeys }

def closeFlow (token : Token) (lexer : Lexer) : Option Lexer := do
  let lexer ← lexer.dropKey
  return { (lexer.allowKey false).emitOver 1 token with
    key := lexer.outerKeys.head?.join
    outerKeys := lexer.outerKeys.tail }

def flowItem (lexer : Lexer) : Option Lexer := do
  return ((← lexer.dropKey).allowKey true).emitOver 1 .flowItem

def blockItem (lexer : Lexer) : Option Lexer := do
  if !lexer.inFlow && !lexer.keyAllowed then none
  else
    let lexer ← (lexer.indentHere .blockSequenceStart).dropKey
    return (lexer.allowKey true).emitOver 1 .blockItem

def explicitKey (lexer : Lexer) : Option Lexer := do
  if !lexer.inFlow && !lexer.keyAllowed then none
  else
    let lexer ← (lexer.indentHere .blockMappingStart).dropKey
    return (lexer.allowKey !lexer.inFlow).emitOver 1 .key

def value (lexer : Lexer) : Option Lexer :=
  match lexer.key with
  -- if a key may have begun before the indicator, one has
  | some key =>
    let withKey := { lexer with
      tokens := lexer.tokens.insertIdxIfInBounds key.position .key
      key := none }
    let lexer := withKey.indent key.column key.position .blockMappingStart
    some ((lexer.allowKey false).emitOver 1 .value)
  | none =>
    if !lexer.inFlow && !lexer.keyAllowed then none
    else
      let lexer := lexer.indentHere .blockMappingStart
      some ((lexer.allowKey !lexer.inFlow).emitOver 1 .value)

def keyable (scan : Cursor → Option (Token × Cursor)) (lexer : Lexer) : Option Lexer := do
  let lexer ← lexer.saveKey
  let (token, cursor) ← scan lexer.cursor
  return { (lexer.emit token).allowKey false with cursor }

def quotedScalar (quote : Char) : Lexer → Option Lexer :=
  keyable fun cursor => (scanQuoted quote cursor).map fun scanned =>
    (.scalar (String.ofList scanned.text) .quoted, scanned.behind)

def plainScalar (lexer : Lexer) : Option Lexer := do
  let lexer ← lexer.saveKey
  let least := match lexer.indents.head? with
    | some column => column + 1
    | none => 0
  let (scanned, isNewLine) ← scanPlain lexer.inFlow least lexer.cursor
  return { (lexer.emit (.scalar (String.ofList scanned.text) .plain)).allowKey isNewLine with
    cursor := scanned.behind }

def blockScalar (isLiteral : Bool) (lexer : Lexer) : Option Lexer := do
  let lexer ← lexer.dropKey
  let scanned ← scanBlock isLiteral lexer.indents.head? lexer.cursor.next
  let style := if isLiteral then Style.literal else Style.quoted
  return { (lexer.emit (.scalar (String.ofList scanned.text) style)).allowKey true with
    cursor := scanned.behind }

def beginsPlain (inFlow : Bool) (c : Char) (rest : List Char) : Bool :=
  if c == '-' then !rest.head?.any isBlank
  else if c == '?' || c == ':' then !inFlow && !atGap rest
  else !(",[]\x7b\x7d#&*!|>'\"%@\x60".contains c || isGap c)

def token (lexer : Lexer) (c : Char) (rest : List Char) : Option Lexer :=
  let isFirst := lexer.cursor.column == 0
  let inFlow := lexer.inFlow
  if isFirst && c == '%' then lexer.directive
  else if isFirst && atDocumentMark (c :: rest) then
    lexer.documentMark (if c == '-' then .documentStart else .documentEnd)
  else if c == '[' then lexer.openFlow .flowSequenceStart
  else if c == '\x7b' then lexer.openFlow .flowMappingStart
  else if c == ']' then lexer.closeFlow .flowSequenceEnd
  else if c == '\x7d' then lexer.closeFlow .flowMappingEnd
  else if c == ',' then lexer.flowItem
  else if c == '-' && atGap rest then lexer.blockItem
  else if c == '?' && (inFlow || atGap rest) then lexer.explicitKey
  else if c == ':' && (inFlow || atGap rest) then lexer.value
  else if c == '*' then lexer.keyable fun cursor =>
    (scanName cursor).map fun (name, behind) => (.aliasOf name, behind)
  else if c == '&' then lexer.keyable fun cursor =>
    (scanName cursor).map fun (name, behind) => (.anchor name, behind)
  else if c == '!' then lexer.keyable (scanTag inFlow)
  else if c == '|' && !inFlow then lexer.blockScalar true
  else if c == '>' && !inFlow then lexer.blockScalar false
  else if c == '\'' || c == '"' then lexer.quotedScalar c
  else if beginsPlain inFlow c rest then lexer.plainScalar
  else none

def run : Nat → Lexer → Option (Array Token)
  | 0, _ => none
  | fuel + 1, lexer => do
    let lexer ← (skipGaps (lexer.cursor.rest.length + 1) lexer).dropStaleKeys
    let lexer := lexer.unindent
    match lexer.cursor.rest with
    | [] => return (← lexer.unindentAll.dropKey).tokens
    -- each token takes up at least one character
    | c :: rest => run fuel (← lexer.token c rest)

end Lexer

def isAllowed (c : Char) : Bool :=
  let n := c.toNat
  n == 0x9 || n == 0xa || n == 0xd || (0x20 ≤ n && n ≤ 0x7e) || n == 0x85 ||
    (0xa0 ≤ n && n ≤ 0xfffd) || 0x10000 ≤ n

def tokens? (text : String) : Option (List Token) :=
  let s := text.toList
  if s.all isAllowed then (Lexer.run (s.length + 1) (.start s)).map Array.toList else none

end SwaggerSdk.Yaml
