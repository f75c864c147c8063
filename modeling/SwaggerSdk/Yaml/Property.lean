import SwaggerSdk.Text.Characters
import SwaggerSdk.Yaml.Cursor
import SwaggerSdk.Yaml.Token

/-!
# Anchors, tags and directives

The tokens that describe nodes and documents instead of being part of them.
-/

namespace SwaggerSdk.Yaml

def isNameChar (c : Char) : Bool := c.isAlphanum || c == '_' || c == '-'

def endsName (c : Char) : Bool :=
  isGap c || c == '?' || c == ':' || c == ',' || c == ']' || c == '\x7d' || c == '%' || c == '@' ||
    c == '\x60'

def scanName (cursor : Cursor) : Option (String × Cursor) :=
  let (name, behind) := cursor.next.takeWhile isNameChar
  if name.isEmpty || !behind.rest.head?.all endsName then none
  else some (String.ofList name, behind)

def isTagChar (verbatim : Bool) (c : Char) : Bool :=
  isNameChar c || ";/?:@&=+$.%!~*'()".contains c || (verbatim && (c == ',' || c == '[' || c == ']'))

def octetsFrom? (octet : Nat) : Option Nat :=
  if octet < 0x80 then some 1
  else if octet < 0xc0 then none
  else if octet < 0xe0 then some 2
  else if octet < 0xf0 then some 3
  else if octet < 0xf8 then some 4
  else none

/-- Decodes the escaped octets of a tag; `pending` counts those that the current character still needs. -/
def tagOctets? : Nat → List Char → Option (List UInt8)
  | 0, [] => some []
  | _ + 1, [] => none
  | pending, '%' :: a :: b :: s => do
    let octet ← Text.hexValue? [a, b]
    let needed ← match pending with
      | 0 => (octetsFrom? octet).map (· - 1)
      | pending + 1 => if 0x80 ≤ octet && octet < 0xc0 then some pending else none
    return octet.toUInt8 :: (← tagOctets? needed s)
  | 0, c :: s => if c == '%' then none else (tagOctets? 0 s).map (c.toNat.toUInt8 :: ·)
  | _ + 1, _ :: _ => none

def tagText? (written : List Char) : Option String :=
  (tagOctets? 0 written).map fun octets => (String.fromUTF8? octets.toByteArray).getD "\ufffd"

def scanTagText (verbatim : Bool) (cursor : Cursor) : Option (String × Cursor) := do
  let (written, behind) := cursor.takeWhile (isTagChar verbatim)
  return (← tagText? written, behind)

def scanHandle (cursor : Cursor) : List Char × Bool × Cursor :=
  let (name, behind) := cursor.next.takeWhile isNameChar
  if behind.rest.head? == some '!' then ('!' :: name ++ ['!'], true, behind.next)
  else ('!' :: name, false, behind)

def scanTagParts (cursor : Cursor) : Option (String × String × Cursor) :=
  match cursor.rest with
  | _ :: '<' :: _ => do
    let (text, behind) ← scanTagText true (cursor.advance 2)
    if text.isEmpty || behind.rest.head? != some '>' then none
    else return ("", text, behind.next)
  | _ => do
    let (handle, isClosed, behind) := scanHandle cursor
    let (text, behind) ← scanTagText false behind
    if isClosed then
      if text.isEmpty then none else return (String.ofList handle, text, behind)
    else
      let suffix := String.ofList handle.tail ++ text
      -- a lone mark has no handle
      if suffix.isEmpty then return ("", "!", behind) else return ("!", suffix, behind)

def scanTag (inFlow : Bool) (cursor : Cursor) : Option (Token × Cursor) := do
  let (handle, suffix, behind) ← scanTagParts cursor
  if atGap behind.rest || (inFlow && behind.rest.head? == some ',') then
    return (.tag handle suffix, behind)
  else none

def scanNumber (cursor : Cursor) : Option (Nat × Cursor) :=
  let (digits, behind) := cursor.takeWhile Char.isDigit
  if digits.isEmpty || 9 < digits.length then none
  else some (digits.foldl (fun n c => 10 * n + (c.toNat - '0'.toNat)) 0, behind)

def scanVersion (cursor : Cursor) : Option (Token × Cursor) := do
  let (major, behind) ← scanNumber (cursor.skipWhile isBlank)
  if behind.rest.head? != some '.' then none
  else
    let (minor, behind) ← scanNumber behind.next
    return (.version major minor, behind)

def scanTagHandle (cursor : Cursor) : Option (Token × Cursor) := do
  let cursor := cursor.skipWhile isBlank
  let (handle, isClosed, behind) := scanHandle cursor
  if cursor.rest.head? != some '!' || !(isClosed || handle == ['!']) || !behind.rest.head?.any isBlank then
    none
  else
    let (expansion, behind) ← scanTagText true (behind.skipWhile isBlank)
    if expansion.isEmpty || !atGap behind.rest then none
    else return (.tagHandle (String.ofList handle) expansion, behind)

def scanDirective (cursor : Cursor) : Option (Token × Cursor) := do
  let (name, behind) := cursor.next.takeWhile isNameChar
  if !atGap behind.rest then none
  else
    let (token, behind) ←
      if name == "YAML".toList then scanVersion behind
      else if name == "TAG".toList then scanTagHandle behind
      else none
    return (token, ← behind.endLine?)

end SwaggerSdk.Yaml
