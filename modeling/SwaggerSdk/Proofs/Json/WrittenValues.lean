import SwaggerSdk.Proofs.Json.Validity
import SwaggerSdk.Proofs.Json.Writing

/-!
# Written data are valid

What is written is valid JSON. As a typed value it has all that the data have, items and fields in their order, if the
data are not too deep to be read.
-/

namespace SwaggerSdk.Json

mutual

def valueOf : Datum → Value
  | .flag value => .flag value
  | .text value => .text value
  | .list items => .list (itemValues items)
  | .record fields => .map (fieldValues fields)

def itemValues : List Datum → List Value
  | [] => []
  | item :: items => valueOf item :: itemValues items

def fieldValues : List (String × Datum) → List (Value × Value)
  | [] => []
  | (name, value) :: fields => (.text name, valueOf value) :: fieldValues fields

end

mutual

theorem isValid_treeOf : ∀ datum : Datum, (treeOf datum).isValid
  | .flag _ => rfl
  | .text value => by rw [treeOf, Tree.isValid, read_ofText]; rfl
  | .list items => itemsAreValid_itemTrees items
  | .record fields => membersAreValid_memberTrees fields

theorem itemsAreValid_itemTrees : ∀ items : List Datum, Tree.itemsAreValid (itemTrees items)
  | [] => rfl
  | item :: items => by
    rw [itemTrees, Tree.itemsAreValid, isValid_treeOf item, itemsAreValid_itemTrees items]
    rfl

theorem membersAreValid_memberTrees : ∀ fields : List (String × Datum), Tree.membersAreValid (memberTrees fields)
  | [] => rfl
  | (name, value) :: fields => by
    rw [memberTrees, Tree.membersAreValid, read_ofText, isValid_treeOf value, membersAreValid_memberTrees fields]
    rfl

end

mutual

theorem readTyped_treeOf : ∀ {depth : Nat} (datum : Datum), (treeOf datum).height < depth →
    readTyped depth (treeOf datum) = pure (valueOf datum)
  | _, .flag _, _ => rfl
  | _, .text value, _ => by rw [treeOf, readTyped, read_ofText]; rfl
  | depth, .list items, fits => by
    have inner : Tree.itemsHeight (itemTrees items) < depth - 1 := by
      simp only [treeOf, Tree.height] at fits
      omega
    rw [treeOf, readTyped, inside_eq (by omega), pure_bind, readTypedItems_itemTrees items inner, pure_bind]
    rfl
  | depth, .record fields, fits => by
    have inner : Tree.membersHeight (memberTrees fields) < depth - 1 := by
      simp only [treeOf, Tree.height] at fits
      omega
    rw [treeOf, readTyped, inside_eq (by omega), pure_bind, readTypedMembers_memberTrees fields inner, pure_bind]
    rfl

theorem readTypedItems_itemTrees : ∀ {depth : Nat} (items : List Datum), Tree.itemsHeight (itemTrees items) < depth →
    readTypedItems depth (itemTrees items) = pure (itemValues items)
  | _, [], _ => rfl
  | depth, item :: items, fits => by
    simp only [itemTrees, Tree.itemsHeight, Nat.max_lt] at fits
    rw [itemTrees, readTypedItems, readTyped_treeOf item fits.1, pure_bind, readTypedItems_itemTrees items fits.2,
      pure_bind, itemValues]

theorem readTypedMembers_memberTrees : ∀ {depth : Nat} (fields : List (String × Datum)),
    Tree.membersHeight (memberTrees fields) < depth →
      readTypedMembers depth (memberTrees fields) = pure (fieldValues fields)
  | _, [], _ => rfl
  | depth, (name, value) :: fields, fits => by
    simp only [memberTrees, Tree.membersHeight, Nat.max_lt] at fits
    have named : (Lexeme.ofText name).read = pure name := read_ofText name
    rw [memberTrees, readTypedMembers, named, pure_bind, readTyped_treeOf value fits.1, pure_bind,
      readTypedMembers_memberTrees fields fits.2, pure_bind, fieldValues]

end

end SwaggerSdk.Json
