import SwaggerSdk.Yaml.Token

/-!
# Nodes of YAML

The tree that tokens describe. An alias stays one, under the number of the anchor that it names; numbers
are given to anchors as they come, and what a number stands for is known once the whole text is.
-/

namespace SwaggerSdk.Yaml

inductive Node where
  | scalar (tag : Option String) (text : String) (style : Style)
  | sequence (tag : Option String) (items : List Node)
  | mapping (tag : Option String) (pairs : List (Node × Node))
  | aliasOf (number : Nat)
  deriving Repr, Inhabited

namespace Node

def empty : Node := .scalar none "" .plain

mutual

/-- How many steps it takes to walk over a node: one for a scalar or an alias, and one at either end of a
collection. -/
def stepCount : Node → Nat
  | scalar _ _ _ | aliasOf _ => 1
  | sequence _ items => 2 + itemSteps items
  | mapping _ pairs => 2 + pairSteps pairs

def itemSteps : List Node → Nat
  | [] => 0
  | item :: items => stepCount item + itemSteps items

def pairSteps : List (Node × Node) → Nat
  | [] => 0
  | (key, value) :: pairs => stepCount key + stepCount value + pairSteps pairs

end

end Node

structure Anchored where
  number : Nat
  /-- How many anchored nodes begin before this one. -/
  rank : Nat
  node : Node
  deriving Repr, Inhabited

structure Composer where
  tokens : List Token
  handles : List (String × String)
  numbers : List (String × Nat)
  begun : Nat
  anchored : List Anchored

abbrev Compose := StateT Composer Option

namespace Compose

def peek : Compose (Option Token) := return (← get).tokens.head?

def skip : Compose Unit := modify fun state => { state with tokens := state.tokens.tail }

def skipIf (token : Token) : Compose Bool := do
  if (← peek) == some token then
    skip
    return true
  else return false

/-- The number of a new anchor: how many names have anchors so far. -/
def bind (name : String) : Compose (Nat × Nat) := do
  let state ← get
  let names := (state.numbers.map (·.1)).eraseDups
  set { state with numbers := (name, names.length) :: state.numbers, begun := state.begun + 1 }
  return (names.length, state.begun)

def expand (handle suffix : String) : Compose String := do
  if handle.isEmpty then return suffix
  else
    let some expansion := (← get).handles.lookup handle | failure
    return expansion ++ suffix

def anchor? : Compose (Option String) := do
  match ← peek with
  | some (.anchor name) =>
    skip
    return some name
  | _ => return none

def tag? : Compose (Option String) := do
  match ← peek with
  | some (.tag handle suffix) =>
    skip
    return some (← expand handle suffix)
  | _ => return none

def properties : Compose (Option String × Option String) := do
  let before ← anchor?
  let tag ← tag?
  let anchor ← if before.isNone && tag.isSome then anchor? else pure before
  return (anchor, tag)

end Compose

def endsItem : Option Token → Bool
  | some .blockItem | some .blockEnd => true
  | _ => false

def endsLooseItem : Option Token → Bool
  | some .blockItem | some .key | some .value | some .blockEnd => true
  | _ => false

def endsBlockPart : Option Token → Bool
  | some .key | some .value | some .blockEnd => true
  | _ => false

def endsFlowPart (close : Token) : Option Token → Bool
  | some token => token == .flowItem || token == close
  | none => false

open Compose in
mutual

/-- Reads a node. Block collections may begin only where `block` holds, and a sequence without indentation
of its own only where `loose` does. -/
def composeNode : Nat → Bool → Bool → Compose Node
  | 0, _, _ => failure
  | fuel + 1, block, loose => do
    match ← peek with
    | some (.aliasOf name) =>
      skip
      let some number := (← get).numbers.lookup name | failure
      return .aliasOf number
    | _ =>
      let (anchor, tag) ← properties
      let binding ← anchor.mapM bind
      let node ← composeContent fuel block loose anchor.isSome tag
      if let some (number, rank) := binding then
        modify fun state => { state with anchored := ⟨number, rank, node⟩ :: state.anchored }
      return node

/-- Reads what follows the anchor and the tag of a node. -/
def composeContent : Nat → Bool → Bool → Bool → Option String → Compose Node
  | 0, _, _, _, _ => failure
  | fuel + 1, block, loose, hasAnchor, tag => do
    match ← peek with
    | some .blockItem =>
      if loose then return .sequence tag (← composeLooseItems fuel)
      else if hasAnchor || tag.isSome then return .scalar tag "" .plain
      else failure
    | some (.scalar text style) =>
      skip
      -- a lone exclamation mark is no tag of a scalar that is written out
      return .scalar (tag.filter (· != "!")) text style
    | some .flowSequenceStart =>
      skip
      return .sequence tag (← composeFlowItems fuel true)
    | some .flowMappingStart =>
      skip
      return .mapping tag (← composeFlowPairs fuel true)
    | some .blockSequenceStart =>
      if block then
        skip
        return .sequence tag (← composeItems fuel)
      else if hasAnchor || tag.isSome then return .scalar tag "" .plain
      else failure
    | some .blockMappingStart =>
      if block then
        skip
        return .mapping tag (← composePairs fuel)
      else if hasAnchor || tag.isSome then return .scalar tag "" .plain
      else failure
    | _ => if hasAnchor || tag.isSome then return .scalar tag "" .plain else failure

def composeUnless : Nat → Bool → Bool → Bool → Compose Node
  | 0, _, _, _ => failure
  | fuel + 1, isEmpty, block, loose => if isEmpty then return .empty else composeNode fuel block loose

def composeItems : Nat → Compose (List Node)
  | 0 => failure
  | fuel + 1 => do
    if ← skipIf .blockItem then
      let item ← composeUnless fuel (endsItem (← peek)) true false
      return item :: (← composeItems fuel)
    else if ← skipIf .blockEnd then return []
    else failure

def composeLooseItems : Nat → Compose (List Node)
  | 0 => failure
  | fuel + 1 => do
    if ← skipIf .blockItem then
      let item ← composeUnless fuel (endsLooseItem (← peek)) true false
      return item :: (← composeLooseItems fuel)
    else return []

def composePairs : Nat → Compose (List (Node × Node))
  | 0 => failure
  | fuel + 1 => do
    if ← skipIf .key then
      let key ← composeUnless fuel (endsBlockPart (← peek)) true true
      let value ← if ← skipIf .value then composeUnless fuel (endsBlockPart (← peek)) true true
        else pure .empty
      return (key, value) :: (← composePairs fuel)
    else if ← skipIf .blockEnd then return []
    else failure

def composeFlowItems : Nat → Bool → Compose (List Node)
  | 0, _ => failure
  | fuel + 1, isFirst => do
    if ← skipIf .flowSequenceEnd then return []
    else
      if !isFirst then
        if !(← skipIf .flowItem) then failure
      if ← skipIf .key then
        let pair ← composeFlowPair fuel
        return .mapping none [pair] :: (← composeFlowItems fuel false)
      else if ← skipIf .flowSequenceEnd then return []
      else
        let item ← composeNode fuel false false
        return item :: (← composeFlowItems fuel false)

/-- Reads a pair in a flow sequence, from behind the indicator of its key. -/
def composeFlowPair : Nat → Compose (Node × Node)
  | 0 => failure
  | fuel + 1 => do
    let next ← peek
    let key ←
      -- an empty key takes the next token with it
      if next == some .value || endsFlowPart .flowSequenceEnd next then do
        skip
        pure Node.empty
      else composeNode fuel false false
    let value ← if ← skipIf .value then
        composeUnless fuel (endsFlowPart .flowSequenceEnd (← peek)) false false
      else pure .empty
    return (key, value)

def composeFlowPairs : Nat → Bool → Compose (List (Node × Node))
  | 0, _ => failure
  | fuel + 1, isFirst => do
    if ← skipIf .flowMappingEnd then return []
    else
      if !isFirst then
        if !(← skipIf .flowItem) then failure
      if ← skipIf .key then
        let next ← peek
        let isEmpty := next == some .value || endsFlowPart .flowMappingEnd next
        let key ← composeUnless fuel isEmpty false false
        let value ← if ← skipIf .value then
            composeUnless fuel (endsFlowPart .flowMappingEnd (← peek)) false false
          else pure .empty
        return (key, value) :: (← composeFlowPairs fuel false)
      else if ← skipIf .flowMappingEnd then return []
      else
        let key ← composeNode fuel false false
        return (key, .empty) :: (← composeFlowPairs fuel false)

end

/-- A text as a tree: its one document, and what the numbers of aliases stand for. -/
structure Composed where
  root : Option Node
  anchored : List Anchored
  deriving Repr, Inhabited

namespace Composed

/-- The node that a number stands for: of those with that number, the one that begins last. -/
def target? (composed : Composed) (number : Nat) : Option Node :=
  let candidates := composed.anchored.filter (·.number == number)
  (candidates.foldl (fun best? candidate =>
    match best? with
    | some best => if best.rank < candidate.rank then some candidate else best?
    | none => some candidate) (none : Option Anchored)).map (·.node)

def stepCount (composed : Composed) : Nat := (composed.root.map Node.stepCount).getD 1

end Composed

/-- Reads the directives before a document: at most one version, and each handle once. The flag tells
whether there are any. -/
def readDirectives : Bool → List (String × String) → List Token →
    Option (Bool × List (String × String) × List Token)
  | hasVersion, handles, .version major minor :: tokens =>
    if !hasVersion && major == 1 && (minor == 1 || minor == 2) then readDirectives true handles tokens
    else none
  | hasVersion, handles, .tagHandle handle expansion :: tokens =>
    if (handles.lookup handle).isSome then none
    else readDirectives hasVersion ((handle, expansion) :: handles) tokens
  | hasVersion, handles, tokens => some (hasVersion || !handles.isEmpty, handles, tokens)

def endsDocument : List Token → Bool
  | [] | .documentStart :: _ | .documentEnd :: _ | .version _ _ :: _ | .tagHandle _ _ :: _ => true
  | _ => false

def commonHandles : List (String × String) := [("!", "!"), ("!!", "tag:yaml.org,2002:")]

/-- Reads the only document of a text. Nothing but the marks that end it may follow. -/
def composeDocument (tokens : List Token) : Option Composed := do
  if tokens.isEmpty then return ⟨none, []⟩
  let (hasDirectives, handles, behind) ← readDirectives false [] tokens
  let isExplicit := behind.head? == some .documentStart
  if hasDirectives && !isExplicit then none
  else
    let content := if isExplicit then behind.tail else behind
    let start : Composer := ⟨content, handles ++ commonHandles, [], 0, []⟩
    let isEmpty := isExplicit && endsDocument content
    let (root, state) ← (composeUnless (4 * content.length + 4) isEmpty true false).run start
    if state.tokens.all (· == .documentEnd) then return ⟨some root, state.anchored⟩ else none

end SwaggerSdk.Yaml
