import SwaggerSdk.Proofs.Json.ReorderedValues
import SwaggerSdk.Proofs.Tables

/-!
# Places of reordered trees

Whatever is read at a place is read at a place with a reordered tree: texts, flags, lists and records as they are,
tables with their entries in another order. Where objects have distinct keys the last member of a name is the only
one, so which one is last makes no difference.
-/

namespace SwaggerSdk.Json

/-- Places of one depth with reordered trees, in which no object has two members of one name. -/
structure Place.Alike (place place' : Place) : Prop where
  depth : place.depth = place'.depth
  tree : place.tree.Reordered place'.tree
  distinct : place.tree.hasDistinctKeys

section Values

variable {α : Type} {read : Place → Except ReadError α}

/-- Where no container can be read, the order of members does not matter. -/
theorem scalar_carries (array : ∀ {depth items fault value}, read ⟨depth, .array items fault⟩ ≠ pure value)
    (object : ∀ {depth members fault value}, read ⟨depth, .object members fault⟩ ≠ pure value) :
    Carries Place.Alike Eq read := by
  rintro ⟨depth, tree⟩ ⟨_, tree'⟩ ⟨rfl, reordered, -⟩ value reads
  cases reordered.layered with
  | same => exact ⟨value, reads, rfl⟩
  | array => exact absurd reads array
  | object => exact absurd reads object

theorem text_carries : Carries Place.Alike Eq dataFormat.text := scalar_carries nofun nofun

theorem flag_carries : Carries Place.Alike Eq dataFormat.flag := scalar_carries nofun nofun

theorem optional_carries (carries : Carries Place.Alike Eq read) :
    Carries Place.Alike Eq (dataFormat.optional read) := by
  have present : Carries Place.Alike Eq fun place => some <$> read place := by
    intro place place' alike value reads
    obtain ⟨x, here, rfl⟩ := Peels.map_eq_pure reads
    obtain ⟨_, there, rfl⟩ := carries alike here
    exact ⟨some x, by simp only [there, map_pure], rfl⟩
  rintro ⟨depth, tree⟩ ⟨_, tree'⟩ ⟨rfl, reordered, distinct⟩ value reads
  have alike : Place.Alike ⟨depth, tree⟩ ⟨depth, tree'⟩ := ⟨rfl, reordered, distinct⟩
  cases reordered.layered with
  | same => exact ⟨value, reads, rfl⟩
  | array => exact present alike reads
  | object => exact present alike reads

theorem entry_carries : Carries Place.Alike Eq dataFormat.entry := by
  rintro ⟨depth, tree⟩ ⟨_, tree'⟩ ⟨rfl, reordered, -⟩ entry reads
  obtain ⟨value, typed, found⟩ := entry_eq_pure_iff.mp reads
  obtain ⟨value', typed', alike⟩ := readTyped_carries depth reordered typed
  obtain ⟨_, typed'', alike'⟩ := readTyped_carries depth reordered.symm typed'
  obtain rfl := Peels.pure_inj (typed.symm.trans typed'')
  rw [Entry.ofValue?_alike alike alike'] at found
  exact ⟨entry, entry_eq_pure_iff.mpr ⟨value', typed', found⟩, rfl⟩

/-! ### Lists and tables -/

theorem alike_items {items items' : List Tree} {fault : Option Fault} {depth : Nat}
    (both : List.Forall₂ Tree.Reordered items items') (distinct : Tree.hasDistinctKeys (.array items fault)) :
    List.Forall₂ (fun tree tree' => Place.Alike ⟨depth, tree⟩ ⟨depth, tree'⟩) items items' := by
  have each := (List.forall₂_and_left _ _).mpr ⟨Tree.hasDistinctKeys_array.mp distinct, both⟩
  exact each.imp fun _ _ here => ⟨rfl, here.2, here.1⟩

theorem alike_places {items items' : List Tree} {fault : Option Fault} (both : List.Forall₂ Tree.Reordered items items')
    (distinct : Tree.hasDistinctKeys (.array items fault)) (depth : Nat) :
    List.Forall₂ Place.Alike (items.map fun tree => ⟨depth, tree⟩) (items'.map fun tree => ⟨depth, tree⟩) :=
  List.forall₂_map_left_iff.mpr (List.forall₂_map_right_iff.mpr (alike_items both distinct))

theorem alike_members {members members' : List (Lexeme × Tree)} {fault : Option Fault} {depth : Nat}
    (both : List.Forall₂ (Keyed Tree.Reordered) members members')
    (distinct : Tree.hasDistinctKeys (.object members fault)) :
    List.Forall₂ (Keyed fun tree tree' => Place.Alike ⟨depth, tree⟩ ⟨depth, tree'⟩) members members' := by
  have each := (List.forall₂_and_left _ _).mpr ⟨(Tree.hasDistinctKeys_object.mp distinct).2, both⟩
  exact each.imp fun _ _ here => ⟨here.2.key, rfl, here.2.value, here.1⟩

theorem alike_fields {members members' : List (Lexeme × Tree)} {fault : Option Fault}
    (both : List.Forall₂ (Keyed Tree.Reordered) members members')
    (distinct : Tree.hasDistinctKeys (.object members fault)) (depth : Nat) :
    List.Forall₂ (Keyed Place.Alike) (members.map fun member => (member.1, ⟨depth, member.2⟩))
      (members'.map fun member => (member.1, ⟨depth, member.2⟩)) := by
  refine List.forall₂_map_left_iff.mpr (List.forall₂_map_right_iff.mpr ?_)
  exact (alike_members both distinct).imp fun _ _ here => ⟨here.key, here.value⟩

theorem list_carries (carries : Carries Place.Alike Eq read) : Carries Place.Alike Eq (dataFormat.list read) := by
  rintro ⟨depth, tree⟩ ⟨_, tree'⟩ ⟨rfl, reordered, distinct⟩ values reads
  simp only at distinct reordered
  cases reordered.layered with
  | same => exact ⟨values, reads, rfl⟩
  | object => cases reads
  | array both =>
    obtain ⟨inner, deep, each, complete⟩ := list_array_eq_pure_iff.mp reads
    obtain ⟨values', each', same⟩ :=
      mapM_alike (alike_items both distinct) (fun _ _ here _ reads => carries here reads) each
    rw [List.forall₂_eq_eq_eq] at same
    exact ⟨values', list_array_eq_pure_iff.mpr ⟨inner, deep, each', complete⟩, same⟩

theorem readMember_carries (carries : Carries Place.Alike Eq read) (depth : Nat) :
    Carries (Keyed fun tree tree' => Place.Alike ⟨depth, tree⟩ ⟨depth, tree'⟩) Eq (readMember read depth) := by
  rintro member member' ⟨key, alike⟩ entry reads
  obtain ⟨named, value⟩ := readMember_eq_pure_iff.mp reads
  obtain ⟨_, value', rfl⟩ := carries alike value
  exact ⟨entry, readMember_eq_pure_iff.mpr ⟨key ▸ named, value'⟩, rfl⟩

theorem keyNames_eq_of_mapM {depth : Nat} {members : List (Lexeme × Tree)} {entries : List (String × α)}
    (reads : members.mapM (readMember read depth) = pure entries) : Tree.keyNames members = entries.map (·.1) := by
  have each := mapM_eq_pure_iff.mp reads
  clear reads
  induction each with
  | nil => rfl
  | @cons member entry _ _ first _ ih =>
    have named : member.1.read.toOption = some entry.1 := by
      rw [(readMember_eq_pure_iff.mp first).1]
      rfl
    exact (List.filterMap_cons_some (f := fun member : Lexeme × Tree => member.1.read.toOption) named).trans
      (congrArg _ ih)

/-- Reordered objects are read as tables of the same entries in another order. -/
theorem table_carries (carries : Carries Place.Alike Eq read) :
    Carries Place.Alike (fun table table' => table.entries.Perm table'.entries) (dataFormat.table read) := by
  rintro ⟨depth, tree⟩ ⟨_, tree'⟩ ⟨rfl, reordered, distinct⟩ table reads
  simp only at distinct reordered
  cases reordered.layered with
  | same => exact ⟨table, reads, .refl _⟩
  | array => cases reads
  | object both perm =>
    obtain ⟨inner, entries, deep, each, complete, rfl⟩ := table_object_eq_pure_iff.mp reads
    obtain ⟨middle, each', same⟩ := mapM_alike (alike_members both distinct)
      (readMember_carries (optional_carries carries) inner) each
    obtain rfl : entries = middle := by rwa [List.forall₂_eq_eq_eq] at same
    obtain ⟨entries', each'', permEntries⟩ := mapM_perm perm each'
    -- names are distinct, so the entries are the table as they are
    have names : (entries.map (·.1)).Nodup := by
      rw [← keyNames_eq_of_mapM each]
      exact (Tree.hasDistinctKeys_object.mp distinct).1
    have names' : (entries'.map (·.1)).Nodup := (permEntries.map _).nodup names
    have permTables : (Table.ofList entries).present.entries.Perm (Table.ofList entries').present.entries := by
      rw [Table.present_entries, Table.present_entries, Table.entries_ofList names, Table.entries_ofList names']
      exact permEntries.filterMap _
    exact ⟨_, table_object_eq_pure_iff.mpr ⟨inner, entries', deep, each'', complete, rfl⟩, permTables⟩

/-! ### Records -/

variable {ρ : Type} {related : ρ → ρ → Prop} {shape : Shape (Except ReadError) Place ρ}

theorem record_carries (refl : ∀ record, related record record) (steady : shape.Steady Place.Alike related) :
    Carries Place.Alike related (dataFormat.record shape) := by
  rintro ⟨depth, tree⟩ ⟨_, tree'⟩ ⟨rfl, reordered, distinct⟩ record reads
  simp only at distinct reordered
  cases reordered.layered with
  | same => exact ⟨record, reads, refl record⟩
  | array both =>
    obtain ⟨inner, rest, deep, items, none, complete⟩ := record_array_eq_pure_iff.mp reads
    obtain ⟨record', rest', items', relatedRecords, sameRest⟩ :=
      Shape.ofItems_carries steady.fields (alike_places both distinct inner) steady.blank items
    have reads' := record_array_eq_pure_iff.mpr ⟨inner, rest', deep, items', sameRest ▸ none, complete⟩
    exact ⟨record', reads', relatedRecords⟩
  | object both perm =>
    obtain ⟨inner, deep, members, complete⟩ := record_object_eq_pure_iff.mp reads
    have known : ∀ ⦃key : Lexeme⦄ ⦃field⦄, key.read.map shape.field? = pure (some field) → field ∈ shape.fields := by
      intro key field found
      obtain ⟨name, -, found⟩ := Peels.map_eq_pure (show shape.field? <$> key.read = pure (some field) from found)
      exact List.mem_of_find?_eq_some found
    obtain ⟨record', members', relatedRecords⟩ := steady.ofMembers_carries known
      (fun _ _ alike skipped => Tree.skip_reordered alike.tree skipped) (fun _ accepted => by cases accepted)
      (alike_fields both distinct inner) (perm.map _) members
    exact ⟨record', record_object_eq_pure_iff.mpr ⟨inner, deep, members', complete⟩, relatedRecords⟩

end Values

end SwaggerSdk.Json
