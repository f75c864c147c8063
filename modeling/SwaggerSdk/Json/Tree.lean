/-!
# What a text holds when it is read as JSON

A tree keeps the lexemes of the text: strings with their escapes undecoded, numerals as digits, members in
their order with their repetitions. Where the text stops being JSON the tree ends in a fault, so every
text has a tree, and what stands before the fault can still be judged first.
-/

namespace SwaggerSdk.Json

/-- Why a tree is not complete. -/
inductive Fault where
  | early
  /-- The text goes on with something that does not belong there. -/
  | malformed
  | cutNumeral
  deriving DecidableEq, Repr, Inhabited

/-- A character of a string, or one of its escaped UTF-16 units. -/
inductive Piece where
  | char (c : Char)
  | unit (code : Nat)
  deriving DecidableEq, Repr, Inhabited

structure Lexeme where
  pieces : List Piece
  fault : Option Fault
  deriving DecidableEq, Repr, Inhabited

/-- A number as it is written: the digits before the point, those behind it, and those of the exponent
with its sign. -/
structure Numeral where
  negative : Bool
  whole : List Char
  fraction : List Char
  exponent : Option (Bool × List Char)
  deriving DecidableEq, Repr, Inhabited

inductive Tree where
  | null
  | flag (value : Bool)
  | number (numeral : Numeral)
  | text (lexeme : Lexeme)
  | array (items : List Tree) (fault : Option Fault)
  | object (members : List (Lexeme × Tree)) (fault : Option Fault)
  | broken (fault : Fault)
  deriving Repr, Inhabited

namespace Lexeme

def empty : Lexeme := ⟨[], none⟩

def broken (fault : Fault) : Lexeme := ⟨[], some fault⟩

def cons (piece : Piece) (lexeme : Lexeme) : Lexeme := ⟨piece :: lexeme.pieces, lexeme.fault⟩

end Lexeme

namespace Tree

mutual

def fault? : Tree → Option Fault
  | null | flag _ | number _ => none
  | text lexeme => lexeme.fault
  | array items fault => (itemsFault? items).or fault
  | object members fault => (membersFault? members).or fault
  | broken fault => some fault

def itemsFault? : List Tree → Option Fault
  | [] => none
  | item :: items => (fault? item).or (itemsFault? items)

def membersFault? : List (Lexeme × Tree) → Option Fault
  | [] => none
  | (key, value) :: members => key.fault.or ((fault? value).or (membersFault? members))

end

end Tree

end SwaggerSdk.Json
