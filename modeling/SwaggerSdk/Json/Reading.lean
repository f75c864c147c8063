import SwaggerSdk.Json.Tree
import SwaggerSdk.Text.Characters

/-!
# Reading JSON

From text to tree. Every text has a tree; `Tree.ofText` also says whether something but blanks stands
behind it.
-/

namespace SwaggerSdk.Json

def isGap (c : Char) : Bool := c == ' ' || c == '\n' || c == '\t' || c == '\r'

def skipGap (s : List Char) : List Char := s.dropWhile isGap

def escaped? : Char → Option Char
  | '"' => some '"'
  | '\\' => some '\\'
  | '/' => some '/'
  | 'b' => some '\x08'
  | 'f' => some '\x0c'
  | 'n' => some '\n'
  | 'r' => some '\r'
  | 't' => some '\t'
  | _ => none

def octetCount (s : List Char) : Nat := s.foldr (fun c count => c.utf8Size + count) 0

/-- Reads a string from behind its opening quote. -/
def readString : List Char → Lexeme × List Char
  | [] => (.broken .early, [])
  | '"' :: rest => (.empty, rest)
  | '\\' :: 'u' :: a :: b :: c :: d :: rest =>
    match Text.hexValue? [a, b, c, d] with
    | some code =>
      let (lexeme, rest) := readString rest
      (lexeme.cons (.unit code), rest)
    | none => (.broken .malformed, [])
  -- an escape by code needs four octets to look at, whatever they are
  | '\\' :: 'u' :: few => (.broken (if octetCount few < 4 then .early else .malformed), [])
  | ['\\'] => (.broken .early, [])
  | '\\' :: letter :: rest =>
    match escaped? letter with
    | some c =>
      let (lexeme, rest) := readString rest
      (lexeme.cons (.char c), rest)
    | none => (.broken .malformed, [])
  | c :: rest =>
    if c < ' ' then (.broken .malformed, [])
    else
      let (lexeme, rest) := readString rest
      (lexeme.cons (.char c), rest)

def digitFault : List Char → Fault
  | [] => .cutNumeral
  | _ :: _ => .malformed

def readWhole (s : List Char) : Except Fault (List Char × List Char) :=
  match s.takeWhile Char.isDigit, s.dropWhile Char.isDigit with
  | [], rest => .error (digitFault rest)
  -- no digit follows a leading zero
  | '0' :: _ :: _, _ => .error .malformed
  | digits, rest => .ok (digits, rest)

def readFraction : List Char → Except Fault (List Char × List Char)
  | '.' :: rest =>
    match rest.takeWhile Char.isDigit, rest.dropWhile Char.isDigit with
    | [], rest => .error (digitFault rest)
    | digits, rest => .ok (digits, rest)
  | rest => .ok ([], rest)

def readSign : List Char → Bool × List Char
  | '-' :: rest => (true, rest)
  | '+' :: rest => (false, rest)
  | rest => (false, rest)

def readExponent : List Char → Except Fault (Option (Bool × List Char) × List Char)
  | c :: rest =>
    if c == 'e' || c == 'E' then
      let (negative, rest) := readSign rest
      match rest.takeWhile Char.isDigit, rest.dropWhile Char.isDigit with
      | [], rest => .error (digitFault rest)
      | digits, rest => .ok (some (negative, digits), rest)
    else .ok (none, c :: rest)
  | [] => .ok (none, [])

def readNumeral (s : List Char) : Except Fault (Numeral × List Char) := do
  let negative := s.head? == some '-'
  let (whole, rest) ← readWhole (if negative then s.tail else s)
  let (fraction, rest) ← readFraction rest
  let (exponent, rest) ← readExponent rest
  return (⟨negative, whole, fraction, exponent⟩, rest)

def readWord (value : Tree) : List Char → List Char → Tree × List Char
  | [], rest => (value, rest)
  | _ :: _, [] => (.broken .early, [])
  | letter :: letters, c :: rest =>
    if c = letter then readWord value letters rest else (.broken .malformed, [])

mutual

/-- Reads a value, however deep it is; `fuel` bounds the number of steps. -/
def readValue : Nat → List Char → Tree × List Char
  | 0, _ => (.broken .early, [])
  | fuel + 1, s =>
    match skipGap s with
    | [] => (.broken .early, [])
    | 'n' :: rest => readWord .null ['u', 'l', 'l'] rest
    | 't' :: rest => readWord (.flag true) ['r', 'u', 'e'] rest
    | 'f' :: rest => readWord (.flag false) ['a', 'l', 's', 'e'] rest
    | '"' :: rest =>
      let (lexeme, rest) := readString rest
      (.text lexeme, rest)
    | '[' :: rest =>
      match skipGap rest with
      | [] => (.array [] (some .early), [])
      | ']' :: rest => (.array [] none, rest)
      | rest =>
        let (items, fault, rest) := readItems fuel rest
        (.array items fault, rest)
    | '\x7b' :: rest =>
      match skipGap rest with
      | '\x7d' :: rest => (.object [] none, rest)
      | rest =>
        let (members, fault, rest) := readMembers fuel rest
        (.object members fault, rest)
    | c :: rest =>
      if c == '-' || c.isDigit then
        match readNumeral (c :: rest) with
        | .ok (numeral, rest) => (.number numeral, rest)
        | .error fault => (.broken fault, [])
      else (.broken .malformed, [])

def readItems : Nat → List Char → List Tree × Option Fault × List Char
  | 0, _ => ([], some .early, [])
  | fuel + 1, s =>
    let (item, rest) := readValue fuel s
    match skipGap rest with
    | ']' :: rest => ([item], none, rest)
    | ',' :: rest =>
      let (items, fault, rest) := readItems fuel rest
      (item :: items, fault, rest)
    | [] => ([item], some .early, [])
    | _ :: _ => ([item], some .malformed, [])

def readMembers : Nat → List Char → List (Lexeme × Tree) × Option Fault × List Char
  | 0, _ => ([], some .early, [])
  | fuel + 1, s =>
    match s with
    | '"' :: rest =>
      let (key, rest) := readString rest
      match skipGap rest with
      | ':' :: rest =>
        let (value, rest) := readValue fuel rest
        match skipGap rest with
        | '\x7d' :: rest => ([(key, value)], none, rest)
        | ',' :: rest =>
          let (members, fault, rest) := readMembers fuel (skipGap rest)
          ((key, value) :: members, fault, rest)
        | [] => ([(key, value)], some .early, [])
        | _ :: _ => ([(key, value)], some .malformed, [])
      -- the key stays, so that it is judged before what is missing behind it
      | [] => ([(key, .broken .early)], none, [])
      | _ :: _ => ([(key, .broken .malformed)], none, [])
    | [] => ([], some .early, [])
    | _ :: _ => ([], some .malformed, [])

end

/-- The tree of a text, and whether only blanks follow it. -/
def Tree.ofText (text : String) : Tree × Bool :=
  let s := text.toList
  let (tree, rest) := readValue (2 * s.length + 2) s
  (tree, (skipGap rest).isEmpty)

end SwaggerSdk.Json
