import SwaggerSdk.Proofs.Model.Names

/-!
# Names under edits of a document

The names in a model depend on the routes of the operations and on their explicit ids alone, blanks around
an id aside. An operation that is added leaves the names of all others as they are, unless they want the same
candidate. Of those that do, only the one with the bare candidate can be renamed, if no two of their keys
have the same digest.
-/

namespace SwaggerSdk

/-- What an operation contributes to the names: its route, and its explicit id if it has one. -/
structure Wish where
  route : Route
  id? : Option (List Char)
  deriving DecidableEq

namespace Wish

/-- The wish of an operation; blanks around an id do not count, and a blank id counts as none. -/
def ofSlot (slot : Slot) : Wish := ⟨slot.route, Naming.explicitId? slot.operation.id⟩

def candidate (wish : Wish) : String :=
  String.ofList (Naming.declarableChars
    (wish.id?.getD (Naming.routeNameChars wish.route.method wish.route.path.toList)))

theorem candidate_ofSlot (slot : Slot) : (ofSlot slot).candidate = slot.candidate := rfl

theorem candidate_congr {slot slot' : Slot} (same : ofSlot slot = ofSlot slot') :
    slot.candidate = slot'.candidate := by
  rw [← candidate_ofSlot, same, candidate_ofSlot]

end Wish

namespace Document

/-- All that the names in the model of a document depend on. -/
def wishes (document : Document) : List Wish := document.slots.map Wish.ofSlot

variable {before after : Document}

theorem mem_keysWanting_iff_wish {candidate key : String} :
    key ∈ before.keysWanting candidate ↔
      ∃ wish ∈ before.wishes, wish.candidate = candidate ∧ wish.route.key = key := by
  rw [mem_keysWanting]
  constructor
  · rintro ⟨slot, member, wants, rfl⟩
    exact ⟨Wish.ofSlot slot, List.mem_map_of_mem member, (Wish.candidate_ofSlot slot).trans wants, rfl⟩
  · rintro ⟨wish, wished, wants, rfl⟩
    obtain ⟨slot, member, rfl⟩ := List.mem_map.mp wished
    exact ⟨slot, member, (Wish.candidate_ofSlot slot).symm.trans wants, rfl⟩

theorem finalName_congr {slot slot' : Slot} (wish : Wish.ofSlot slot = Wish.ofSlot slot')
    (perm : (before.keysWanting slot.candidate).Perm (after.keysWanting slot.candidate)) :
    before.finalName slot = after.finalName slot' := by
  have routes : slot.route = slot'.route := congrArg Wish.route wish
  unfold finalName
  rw [Naming.publishedName_perm perm, routes, Wish.candidate_congr wish]

/-! ### The same operations -/

theorem keysWanting_perm (same : ∀ wish, wish ∈ before.wishes ↔ wish ∈ after.wishes) (candidate : String) :
    (before.keysWanting candidate).Perm (after.keysWanting candidate) := by
  refine (List.perm_ext_iff_of_nodup (nodup_keysWanting _ _) (nodup_keysWanting _ _)).mpr fun key => ?_
  simp only [mem_keysWanting_iff_wish, same]

theorem mem_names_of_wishes (same : ∀ wish, wish ∈ before.wishes ↔ wish ∈ after.wishes) {pair : String × Route}
    (h : pair ∈ (Model.ofDocument before).endpoints.map fun endpoint => (endpoint.name, endpoint.route)) :
    pair ∈ (Model.ofDocument after).endpoints.map fun endpoint => (endpoint.name, endpoint.route) := by
  obtain ⟨endpoint, offered, rfl⟩ := List.mem_map.mp h
  obtain ⟨slot, member, rfl⟩ := before.mem_endpoints.mp offered
  obtain ⟨slot', member', wish⟩ := List.mem_map.mp ((same _).mp (List.mem_map_of_mem member))
  refine List.mem_map.mpr ⟨_, after.mem_endpoints.mpr ⟨slot', member', rfl⟩, ?_⟩
  have routes : slot'.route = slot.route := congrArg Wish.route wish
  simp only [endpoint, routes, finalName_congr wish.symm (keysWanting_perm same _)]

theorem names_eq_of_wishes (same : ∀ wish, wish ∈ before.wishes ↔ wish ∈ after.wishes) :
    (Model.ofDocument before).endpoints.map (fun endpoint => (endpoint.name, endpoint.route)) =
      (Model.ofDocument after).endpoints.map fun endpoint => (endpoint.name, endpoint.route) := by
  have ascending : ∀ document : Document, Ascending Prod.fst
      ((Model.ofDocument document).endpoints.map fun endpoint => (endpoint.name, endpoint.route)) :=
    fun document => List.pairwise_map.mpr document.ascending_endpoints
  exact ascending_ext (ascending before) (ascending after) fun pair =>
    ⟨mem_names_of_wishes same, mem_names_of_wishes fun wish => (same wish).symm⟩

/-! ### One more operation -/

section Grown

variable {added : Slot} (fresh : ∀ slot ∈ before.slots, slot.route ≠ added.route)
  (grown : ∀ wish, wish ∈ after.wishes ↔ wish = Wish.ofSlot added ∨ wish ∈ before.wishes)

include grown

theorem exists_slot_of_grown {slot : Slot} (h : slot ∈ before.slots) :
    ∃ slot' ∈ after.slots, Wish.ofSlot slot' = Wish.ofSlot slot :=
  List.mem_map.mp ((grown _).mpr (Or.inr (List.mem_map_of_mem h)))

theorem mem_keysWanting_of_grown {candidate key : String} :
    key ∈ after.keysWanting candidate ↔
      added.candidate = candidate ∧ added.route.key = key ∨ key ∈ before.keysWanting candidate := by
  simp only [mem_keysWanting_iff_wish, grown]
  constructor
  · rintro ⟨wish, rfl | member, both⟩
    · exact Or.inl both
    · exact Or.inr ⟨wish, member, both⟩
  · rintro (both | ⟨wish, member, both⟩)
    · exact ⟨_, Or.inl rfl, both⟩
    · exact ⟨wish, Or.inr member, both⟩

theorem keysWanting_perm_of_ne {candidate : String} (other : candidate ≠ added.candidate) :
    (before.keysWanting candidate).Perm (after.keysWanting candidate) := by
  refine (List.perm_ext_iff_of_nodup (nodup_keysWanting _ _) (nodup_keysWanting _ _)).mpr fun key => ?_
  rw [mem_keysWanting_of_grown grown]
  exact ⟨Or.inr, fun h => h.resolve_left fun both => other both.1.symm⟩

include fresh

theorem keysWanting_perm_cons :
    (after.keysWanting added.candidate).Perm (added.route.key :: before.keysWanting added.candidate) := by
  have isNew : added.route.key ∉ before.keysWanting added.candidate := by
    intro wanted
    obtain ⟨slot, member, -, same⟩ := before.mem_keysWanting.mp wanted
    exact fresh slot member (Route.key_inj same)
  have distinct := List.nodup_cons.mpr ⟨isNew, before.nodup_keysWanting added.candidate⟩
  refine (List.perm_ext_iff_of_nodup (nodup_keysWanting _ _) distinct).mpr fun key => ?_
  rw [mem_keysWanting_of_grown grown, List.mem_cons]
  exact or_congr_left ⟨fun both => both.2.symm, fun same => ⟨rfl, same.symm⟩⟩

theorem finalName_of_rival {slot slot' : Slot} (h : slot ∈ before.slots) (wish : Wish.ofSlot slot' = Wish.ofSlot slot)
    (rival : slot.candidate = added.candidate)
    (digests : ((after.keysWanting added.candidate).map shortDigest).Nodup) :
    after.finalName slot' =
      if before.finalName slot = added.candidate ∧ added.route.key < slot.route.key then
        added.candidate ++ "__" ++ shortDigest slot.route.key
      else before.finalName slot := by
  have perm := keysWanting_perm_cons fresh grown
  have routes : slot'.route = slot.route := congrArg Wish.route wish
  have candidates : slot'.candidate = added.candidate := (Wish.candidate_congr wish).trans rival
  have wanted : slot.route.key ∈ before.keysWanting added.candidate :=
    before.mem_keysWanting.mpr ⟨slot, h, rival, rfl⟩
  unfold finalName
  rw [routes, candidates, rival, Naming.publishedName_perm perm]
  exact Naming.publishedName_cons (Naming.underscore_notMem_candidate _ _)
    ((perm.map _).nodup_iff.mp digests) wanted

end Grown

end Document

/-- Names depend on the wishes of the operations alone, and one more operation leaves the names of all others as
they are, but for the owner of the candidate that it wants too. -/
theorem names_stable (before after : Document) :
    ((∀ wish, wish ∈ before.wishes ↔ wish ∈ after.wishes) →
      (Model.ofDocument before).endpoints.map (fun endpoint => (endpoint.name, endpoint.route)) =
        (Model.ofDocument after).endpoints.map fun endpoint => (endpoint.name, endpoint.route)) ∧
    ∀ added : Slot, (∀ slot ∈ before.slots, slot.route ≠ added.route) →
      (∀ wish, wish ∈ after.wishes ↔ wish = Wish.ofSlot added ∨ wish ∈ before.wishes) →
      ∀ slot ∈ before.slots, ∃ name, (Model.ofDocument before).nameOf? slot.route = some name ∧
        (slot.candidate ≠ added.candidate → (Model.ofDocument after).nameOf? slot.route = some name) ∧
        (slot.candidate = added.candidate → ((after.keysWanting added.candidate).map shortDigest).Nodup →
          (Model.ofDocument after).nameOf? slot.route =
            if name = added.candidate ∧ added.route.key < slot.route.key then
              some (added.candidate ++ "__" ++ shortDigest slot.route.key)
            else some name) := by
  refine ⟨Document.names_eq_of_wishes, fun added fresh grown slot member => ?_⟩
  obtain ⟨slot', member', wish⟩ := Document.exists_slot_of_grown grown member
  have routes : slot'.route = slot.route := congrArg Wish.route wish
  have name := after.nameOf?_slot member'
  rw [routes] at name
  refine ⟨before.finalName slot, before.nameOf?_slot member, fun other => ?_, fun rival digests => ?_⟩
  · rw [name, Document.finalName_congr wish.symm (Document.keysWanting_perm_of_ne grown other)]
  · rw [name, Document.finalName_of_rival fresh grown member wish rival digests]
    split <;> rfl

/-- Two operations that want to be called `list`, and one whose id is blank. -/
def Document.shop : Document :=
  { Document.blank with
    paths := ⟨[("/pets", .listing), ("/toys", .listing), ("/carts", .unnamed)], by decide⟩ }

def Document.movedShop : Document :=
  { Document.blank with
    paths := ⟨[("/carts", .unnamed), ("/toys", .listing), ("/pets", .listing)], by decide⟩ }

/-- One more operation wants to be called `list`, and its key is the smallest. -/
def Document.largerShop : Document :=
  { Document.blank with
    paths := ⟨[("/toys", .listing), ("/books", .listing), ("/carts", .unnamed), ("/pets", .listing)], by decide⟩ }

theorem names_stable_shop :
    (Model.ofDocument .shop).endpoints.map (fun endpoint => (endpoint.name, endpoint.route)) =
      (Model.ofDocument .movedShop).endpoints.map (fun endpoint => (endpoint.name, endpoint.route)) ∧
    (Model.ofDocument .shop).nameOf? ⟨.get, "/pets"⟩ = some "list" ∧
    (Model.ofDocument .largerShop).nameOf? ⟨.get, "/pets"⟩ = some "list__8c6c1dd8" ∧
    (Model.ofDocument .largerShop).nameOf? ⟨.get, "/carts"⟩ = some "getCarts" := by
  have moved : Document.shop.wishes.Perm Document.movedShop.wishes := by decide +kernel
  have larger : Document.largerShop.wishes.Perm
      (Wish.ofSlot ⟨⟨.get, "/books"⟩, .listing, .listing⟩ :: Document.shop.wishes) := by decide +kernel
  have stable := (names_stable .shop .largerShop).2 ⟨⟨.get, "/books"⟩, .listing, .listing⟩ (by decide +kernel)
    fun wish => larger.mem_iff.trans List.mem_cons
  have pets : (⟨⟨.get, "/pets"⟩, .listing, .listing⟩ : Slot) ∈ Document.shop.slots :=
    Document.shop.mem_slots.mpr ⟨List.mem_cons_self, rfl⟩
  have carts : (⟨⟨.get, "/carts"⟩, .unnamed, .unnamed⟩ : Slot) ∈ Document.shop.slots :=
    Document.shop.mem_slots.mpr ⟨by simp [Document.shop], rfl⟩
  have bare : (Model.ofDocument .shop).nameOf? ⟨.get, "/pets"⟩ = some "list" :=
    (Document.shop.nameOf?_slot pets).trans (by decide +kernel)
  have own : (Model.ofDocument .shop).nameOf? ⟨.get, "/carts"⟩ = some "getCarts" :=
    (Document.shop.nameOf?_slot carts).trans (by decide +kernel)
  obtain ⟨name, held, -, renamed⟩ := stable _ pets
  obtain rfl := Option.some.inj (bare.symm.trans held)
  obtain ⟨name, held, kept, -⟩ := stable _ carts
  obtain rfl := Option.some.inj (own.symm.trans held)
  exact ⟨(names_stable .shop .movedShop).1 fun wish => moved.mem_iff, bare,
    (renamed rfl (by decide +kernel)).trans (by decide +kernel), kept (by decide +kernel)⟩

end SwaggerSdk
