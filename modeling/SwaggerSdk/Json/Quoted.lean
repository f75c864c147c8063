import SwaggerSdk.Json.Tree

/-!
# JSON strings

What a string stands for, and how a text is written as a string: quotes, backslashes and control
characters are escaped and nothing else. A lexeme stands for a text if its escaped surrogates pair up.
-/

namespace SwaggerSdk.Json

def isLeadUnit (code : Nat) : Bool := 0xd800 ≤ code && code < 0xdc00

def isTrailUnit (code : Nat) : Bool := 0xdc00 ≤ code && code < 0xe000

def pairedChar (lead trail : Nat) : Char :=
  Char.ofNat (0x10000 + (lead - 0xd800) * 0x400 + (trail - 0xdc00))

/-- The characters that pieces stand for, up to the fault that ends them. -/
def decodePieces (fault : Option Fault) : List Piece → Except Fault (List Char)
  | [] =>
    match fault with
    | none => .ok []
    | some fault => .error fault
  | .char c :: pieces => (decodePieces fault pieces).map (c :: ·)
  | .unit lead :: .unit trail :: pieces =>
    if isTrailUnit lead then .error .malformed
    else if isLeadUnit lead then
      if isTrailUnit trail then (decodePieces fault pieces).map (pairedChar lead trail :: ·)
      else .error .malformed
    else (decodePieces fault (.unit trail :: pieces)).map (Char.ofNat lead :: ·)
  | .unit lead :: pieces =>
    if isTrailUnit lead then .error .malformed
    else if isLeadUnit lead then .error (if pieces.isEmpty then fault.getD .malformed else .malformed)
    else (decodePieces fault pieces).map (Char.ofNat lead :: ·)

def Lexeme.decode (lexeme : Lexeme) : Except Fault String :=
  (decodePieces lexeme.fault lexeme.pieces).map String.ofList

def hexPair (code : Nat) : List Char := [Nat.digitChar (code / 16 % 16), Nat.digitChar (code % 16)]

def escapeChar (c : Char) : List Char :=
  match c with
  | '"' => ['\\', '"']
  | '\\' => ['\\', '\\']
  | '\x08' => ['\\', 'b']
  | '\x0c' => ['\\', 'f']
  | '\n' => ['\\', 'n']
  | '\r' => ['\\', 'r']
  | '\t' => ['\\', 't']
  | c => if c < ' ' then ['\\', 'u', '0', '0'] ++ hexPair c.toNat else [c]

def quoteChars (s : List Char) : List Char := '"' :: (s.flatMap escapeChar ++ ['"'])

def quote (text : String) : String := String.ofList (quoteChars text.toList)

end SwaggerSdk.Json
