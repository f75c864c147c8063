import SwaggerSdk.Proofs.Json.Places

/-!
# Valid values

A value is valid if it is complete, its strings are texts and its numerals are in range. Where it has no more containers
in each other than the place allows, it can be read as a typed value (`exists_readTyped`).
-/

namespace SwaggerSdk.Json

namespace Tree

mutual

/-- A valid value: it is complete, its strings are texts and its numerals are in range. -/
def isValid : Tree → Bool
  | null | flag _ => true
  | number numeral => numeral.value?.isSome
  | text lexeme => lexeme.read.toOption.isSome
  | array items fault => fault.isNone && itemsAreValid items
  | object members fault => fault.isNone && membersAreValid members
  | broken _ => false

def itemsAreValid : List Tree → Bool
  | [] => true
  | item :: items => isValid item && itemsAreValid items

def membersAreValid : List (Lexeme × Tree) → Bool
  | [] => true
  | (key, value) :: members => key.read.toOption.isSome && isValid value && membersAreValid members

end

mutual

def height : Tree → Nat
  | array items _ => itemsHeight items + 1
  | object members _ => membersHeight members + 1
  | _ => 0

def itemsHeight : List Tree → Nat
  | [] => 0
  | item :: items => max (height item) (itemsHeight items)

def membersHeight : List (Lexeme × Tree) → Nat
  | [] => 0
  | (_, value) :: members => max (height value) (membersHeight members)

end

end Tree

theorem exists_ok_of_isSome {ε α : Type} {outcome : Except ε α} (present : outcome.toOption.isSome) :
    ∃ x, outcome = pure x := by
  cases outcome with
  | error => cases present
  | ok x => exact ⟨x, rfl⟩

mutual

/-- A valid value can be read wherever its containers fit in. -/
theorem exists_readTyped : ∀ {depth : Nat} {tree : Tree}, tree.isValid → tree.height < depth →
    ∃ value, readTyped depth tree = pure value
  | _, .null, _, _ => ⟨_, rfl⟩
  | _, .flag _, _, _ => ⟨_, rfl⟩
  | _, .number numeral, valid, _ => by
    obtain ⟨value, known⟩ := Option.isSome_iff_exists.mp valid
    exact ⟨value.typed, by simp only [readTyped, Numeral.read, known]; rfl⟩
  | _, .text lexeme, valid, _ => by
    obtain ⟨text, known⟩ := exists_ok_of_isSome valid
    exact ⟨.text text, by rw [readTyped, known]; rfl⟩
  | depth, .array items fault, valid, fits => by
    simp only [Tree.isValid, Tree.height, Bool.and_eq_true, Option.isNone_iff_eq_none] at valid fits
    have inner : Tree.itemsHeight items < depth - 1 := by omega
    obtain ⟨values, each⟩ := exists_readTypedItems valid.2 inner
    rw [valid.1, readTyped, inside_eq (by omega), pure_bind, each, pure_bind]
    exact ⟨_, rfl⟩
  | depth, .object members fault, valid, fits => by
    simp only [Tree.isValid, Tree.height, Bool.and_eq_true, Option.isNone_iff_eq_none] at valid fits
    have inner : Tree.membersHeight members < depth - 1 := by omega
    obtain ⟨values, each⟩ := exists_readTypedMembers valid.2 inner
    rw [valid.1, readTyped, inside_eq (by omega), pure_bind, each, pure_bind]
    exact ⟨_, rfl⟩
  | _, .broken _, valid, _ => nomatch valid

theorem exists_readTypedItems : ∀ {depth : Nat} {items : List Tree}, Tree.itemsAreValid items →
    Tree.itemsHeight items < depth → ∃ values, readTypedItems depth items = pure values
  | _, [], _, _ => ⟨_, rfl⟩
  | depth, item :: items, valid, fits => by
    simp only [Tree.itemsAreValid, Tree.itemsHeight, Bool.and_eq_true, Nat.max_lt] at valid fits
    obtain ⟨value, first⟩ := exists_readTyped valid.1 fits.1
    obtain ⟨values, others⟩ := exists_readTypedItems valid.2 fits.2
    exact ⟨value :: values, by rw [readTypedItems, first, pure_bind, others, pure_bind]⟩

theorem exists_readTypedMembers : ∀ {depth : Nat} {members : List (Lexeme × Tree)}, Tree.membersAreValid members →
    Tree.membersHeight members < depth → ∃ values, readTypedMembers depth members = pure values
  | _, [], _, _ => ⟨_, rfl⟩
  | depth, (key, tree) :: members, valid, fits => by
    simp only [Tree.membersAreValid, Tree.membersHeight, Bool.and_eq_true, Nat.max_lt] at valid fits
    obtain ⟨name, named⟩ := exists_ok_of_isSome valid.1.1
    obtain ⟨value, first⟩ := exists_readTyped valid.1.2 fits.1
    obtain ⟨values, others⟩ := exists_readTypedMembers valid.2 fits.2
    exact ⟨(.text name, value) :: values, by
      rw [readTypedMembers, named, pure_bind, first, pure_bind, others, pure_bind]⟩

end

end SwaggerSdk.Json
