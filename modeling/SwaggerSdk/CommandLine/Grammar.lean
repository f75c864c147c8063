import SwaggerSdk.CommandLine.Request

/-!
# Options

How the options of a command are written and read. Arguments are taken one after the other, each changes the
draft of a request, and the first that stops decides.
-/

namespace SwaggerSdk.CommandLine

inductive Effect (ρ : Type) where
  | stop (reason : Stop)
  | switch (take : ρ → Except Stop ρ)
  | value (take : String → ρ → Except Stop ρ)

/-- An option: its name behind two dashes, perhaps a letter behind one, and what it does. -/
structure Choice (ρ : Type) where
  name : String
  letter : Option Char
  effect : Effect ρ

namespace Choice

def valued {ρ α : Type} (name : String) (letter : Option Char) (read : String → Option α)
    (given : ρ → Option α) (set : α → ρ → ρ) : Choice ρ where
  name := name
  letter := letter
  effect := .value fun text draft =>
    match read text, given draft with
    | some value, none => .ok (set value draft)
    | _, _ => .error .misuse

def help {ρ : Type} (command : Option Command) : Choice ρ := ⟨"help", some 'h', .stop (.help command)⟩

def path? (text : String) : Option String := if text.isEmpty then none else some text

end Choice

/-- How the arguments of a command are read: its options, and what a word does that belongs to none. -/
structure Grammar (ρ : Type) where
  choices : List (Choice ρ)
  word : String → ρ → Except Stop ρ

inductive Argument where
  | separator
  | named (name : String) (value : Option String)
  | lettered (letter : Char) (rest : List Char)
  | word (text : String)

def Argument.ofText (text : String) : Argument :=
  match text.toList with
  | ['-', '-'] => separator
  | '-' :: '-' :: s =>
    let name := s.takeWhile (· != '=')
    match s.drop name.length with
    | _ :: value => named (String.ofList name) (some (String.ofList value))
    | [] => named (String.ofList name) none
  | '-' :: letter :: rest => lettered letter rest
  -- a single dash is a word
  | _ => word text

def attachedValue? : List Char → Option String
  | [] => none
  | '=' :: s => some (String.ofList s)
  | s => some (String.ofList s)

def isWord (text : String) : Bool :=
  match Argument.ofText text with
  | .word _ => true
  | _ => false

namespace Grammar

variable {ρ : Type} (grammar : Grammar ρ)

def named? (name : String) : Option (Effect ρ) :=
  (grammar.choices.find? (·.name == name)).map (·.effect)

def lettered? (letter : Char) : Option (Effect ρ) :=
  (grammar.choices.find? (·.letter == some letter)).map (·.effect)

def readWords (draft : ρ) (words : List String) : Except Stop ρ :=
  words.foldlM (fun draft word => grammar.word word draft) draft

def read (draft : ρ) : List String → Except Stop ρ
  | [] => .ok draft
  | argument :: rest =>
    match Argument.ofText argument with
    -- from here on everything is a word, whatever it looks like
    | .separator => grammar.readWords draft rest
    | .word text => (grammar.word text draft).bind fun draft => read draft rest
    | .named name value? =>
      match grammar.named? name, value? with
      | some (.stop reason), none => .error reason
      | some (.switch take), none => (take draft).bind fun draft => read draft rest
      | some (.value take), some value => (take value draft).bind fun draft => read draft rest
      | some (.value take), none => readValue take draft rest
      | _, _ => .error .misuse
    | .lettered letter attached =>
      match grammar.lettered? letter, attachedValue? attached with
      | some (.stop reason), _ => .error reason
      | some (.switch take), none => (take draft).bind fun draft => read draft rest
      | some (.value take), some value => (take value draft).bind fun draft => read draft rest
      | some (.value take), none => readValue take draft rest
      | _, _ => .error .misuse
where
  readValue (take : String → ρ → Except Stop ρ) (draft : ρ) : List String → Except Stop ρ
    | value :: rest =>
      -- what begins like an option is no value unless it is attached
      if isWord value then (take value draft).bind fun draft => read draft rest else .error .misuse
    | [] => .error .misuse

end Grammar

end SwaggerSdk.CommandLine
