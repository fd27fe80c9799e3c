/-
  Gadfly.Proofs.Thinned

  Objects with members missing.

  From a record that is written as an object, members may be taken away, and the values of others
  may lose something too (`Json.Thinned`). A field is then found with what is left of its value,
  or its slot is empty (`Json.SlotLeft`). What that means to the reader depends on the field: a
  text is there or not, a list has what is left of its items.

  Main definitions: `Json.Thinned`, `Json.Each`, `Json.SlotLeft`, `Json.Unknown`.
  Main statements: `Json.Thinned.isRecord`, `Json.Thinned.field?`,
  `Json.SlotLeft.optional_within`, `Json.SlotLeft.list_within`.
-/

import Gadfly.Proofs.Record

namespace Gadfly.Json

/-! ## Objects with members missing -/

/-- What is left of the members of an object, when some of those that may go are gone, and each
value that stays is related to the one that was there. -/
inductive MembersLeft (may : String → Prop) (R : String → Json → Json → Prop) :
    List (String × Json) → List (String × Json) → Prop
  | nil : MembersLeft may R [] []
  | kept {name : String} {value value' : Json} {members members' : List (String × Json)}
      (hvalue : R name value value') (hrest : MembersLeft may R members members') :
      MembersLeft may R ((name, value) :: members) ((name, value') :: members')
  | gone {name : String} {value : Json} {members members' : List (String × Json)}
      (hname : may name) (hrest : MembersLeft may R members members') :
      MembersLeft may R ((name, value) :: members) members'

/-- What is left of a value: the same, or an object with members missing. -/
inductive Thinned (may : String → Prop) (R : String → Json → Json → Prop) : Json → Json → Prop
  | same (j : Json) : Thinned may R j j
  | object {members members' : List (String × Json)}
      (hmembers : MembersLeft may R members members') :
      Thinned may R (.object members) (.object members')

/-- Arrays with related items, or the same value. -/
inductive Each (R : Json → Json → Prop) : Json → Json → Prop
  | same (j : Json) : Each R j j
  | array {items items' : List Json} (hitems : List.Forall₂ R items items') :
      Each R (.array items) (.array items')

/-- What is left in a slot. -/
inductive SlotLeft (may : Prop) (R : Json → Json → Prop) : Option Json → Option Json → Prop
  | empty : SlotLeft may R none none
  | kept {value value' : Json} (hvalue : R value value') : SlotLeft may R (some value) (some value')
  | gone {value : Json} (hmay : may) : SlotLeft may R (some value) none

section Members

variable {may : String → Prop} {R : String → Json → Json → Prop} {name : String}
  {names : List String} {members members' : List (String × Json)} {j j' : Json}

theorem MembersLeft.occurrences_le (h : MembersLeft may R members members') :
    occurrences members' name ≤ occurrences members name := by
  induction h with
  | nil => exact Nat.le_refl _
  | kept _ _ ih =>
    rw [occurrences_cons, occurrences_cons]
    exact Nat.add_le_add_right ih _
  | gone _ _ ih =>
    rw [occurrences_cons]
    exact Nat.le_add_right_of_le ih

theorem MembersLeft.occurrences_eq (h : MembersLeft may R members members') (hname : ¬may name) :
    occurrences members' name = occurrences members name := by
  induction h with
  | nil => rfl
  | kept _ _ ih => rw [occurrences_cons, occurrences_cons, ih]
  | @gone other _ _ _ hother _ ih =>
    have hne : other ≠ name := fun hsame => hname (hsame ▸ hother)
    rw [occurrences_cons, if_neg hne, Nat.add_zero, ih]

/-- A name that is given is still given, with what is left of its value, or it is gone. It must
not be given twice if it may go. -/
theorem MembersLeft.find? (h : MembersLeft may R members members')
    (hone : may name → occurrences members name ≤ 1) :
    SlotLeft (may name) (R name) (find? members name) (find? members' name) := by
  induction h with
  | nil => exact .empty
  | @kept other value value' _ _ hvalue _ ih =>
    rw [occurrences_cons] at hone
    rw [find?_cons, find?_cons]
    by_cases hsame : other = name
    · subst hsame
      rw [if_pos rfl, if_pos rfl]
      exact .kept hvalue
    · rw [if_neg hsame] at hone ⊢
      rw [if_neg hsame]
      exact ih hone
  | @gone other value members members' hother hleft ih =>
    rw [occurrences_cons] at hone
    rw [find?_cons]
    by_cases hsame : other = name
    · subst hsame
      -- The name is given here, so nowhere else.
      have hlast : occurrences members other = 0 := by
        have hthere := hone hother
        rw [if_pos rfl] at hthere
        omega
      have hgone : Json.find? members' other = none :=
        find?_eq_none_iff.2 (Nat.le_zero.1 (hlast ▸ hleft.occurrences_le))
      rw [hgone, if_pos rfl]
      exact .gone hother
    · rw [if_neg hsame] at hone ⊢
      exact ih hone

theorem Thinned.isRecord (h : Thinned may R j j') (hrecord : IsRecord names j) :
    IsRecord names j' := by
  cases h with
  | same => exact hrecord
  | object hmembers =>
    rw [isRecord_object_iff] at hrecord ⊢
    exact fun name hname => hmembers.occurrences_le.trans (hrecord name hname)

theorem Thinned.isRecord_iff (h : Thinned may R j j') (hnames : ∀ name ∈ names, ¬may name) :
    IsRecord names j' ↔ IsRecord names j := by
  cases h with
  | same => rfl
  | object hmembers =>
    rw [isRecord_object_iff, isRecord_object_iff]
    refine forall₂_congr fun name hname => ?_
    rw [hmembers.occurrences_eq (hnames name hname)]

theorem Thinned.eq_null_iff (h : Thinned may R j j') : j' = .null ↔ j = .null := by
  cases h with
  | same => rfl
  | object => exact iff_of_false nofun nofun

/-- A field of a record (`field?`) is there with what is left of its value, or it is gone. -/
theorem Thinned.field? (h : Thinned may R j j') (hrefl : ∀ value, R name value value)
    (hrecord : may name → IsRecord names j) (hname : name ∈ names) (place : Nat) :
    SlotLeft (may name) (R name) (j.field? place name) (j'.field? place name) := by
  cases h with
  | same =>
    cases j.field? place name with
    | none => exact .empty
    | some value => exact .kept (hrefl value)
  | object hmembers =>
    exact hmembers.find? fun hmay => isRecord_object_iff.1 (hrecord hmay) name hname

end Members

/-! ## Reading what is left -/

/-- A value as long as something is left in its slot. -/
def ifLeft {α : Type} (slot : Option Json) (absent value : α) : α :=
  if slot.isSome then value else absent

/-- The items of an array in a slot. -/
def itemsOf : Option Json → List Json
  | some (.array items) => items
  | _ => []

section Slots

variable {α : Type} {may : Prop} {R : Json → Json → Prop} {slot slot' : Option Json}
  {value value' : Json} {value? item? : Json → Option α} {within : Json → α → α}

theorem SlotLeft.eq_of_not (h : SlotLeft may Eq slot slot') (hmay : ¬may) : slot' = slot := by
  cases h with
  | empty => rfl
  | kept hvalue => rw [hvalue]
  | gone hgone => exact absurd hgone hmay

theorem SlotLeft.optional_ifLeft {a : Option α} (h : SlotLeft may Eq slot slot')
    (hread : optional value? slot = some a) :
    optional value? slot' = some (ifLeft slot' none a) := by
  cases h with
  | empty => rfl
  | kept hsame => exact hsame ▸ hread
  | gone => rfl

theorem SlotLeft.orElse_ifLeft {absent a : α} (h : SlotLeft may Eq slot slot')
    (hread : orElse absent value? slot = some a) :
    orElse absent value? slot' = some (ifLeft slot' absent a) := by
  cases h with
  | empty => rfl
  | kept hsame => exact hsame ▸ hread
  | gone => rfl

/-- What may be left out (`optional`) is read with what is left of it. -/
theorem SlotLeft.optional_within {a : Option α} (h : SlotLeft may R slot slot')
    (hnull : value? .null = none)
    (hleft : ∀ value value', R value value' → (value' = .null ↔ value = .null))
    (hwithin : ∀ value value' a, R value value' → value? value = some a →
      value? value' = some (within value' a))
    (hread : optional value? slot = some a) :
    optional value? slot' = some (slot'.bind fun left => a.map (within left)) := by
  cases h with
  | empty => rfl
  | gone => rfl
  | @kept value value' hvalue =>
    by_cases hnone : value = .null
    · subst hnone
      rw [(hleft _ _ hvalue).2 rfl]
      obtain rfl := Option.some.inj hread
      rfl
    · rw [optional_of_ne_null hnone] at hread
      obtain ⟨a, ha, rfl⟩ := Option.map_eq_some_iff.1 hread
      exact optional_of_some hnull (hwithin _ _ _ hvalue ha)

theorem SlotLeft.optional_eq (h : SlotLeft may R slot slot') (hmay : ¬may)
    (hleft : ∀ value value', R value value' → (value' = .null ↔ value = .null))
    (hread : ∀ value value', R value value' → value? value' = value? value) :
    optional value? slot' = optional value? slot := by
  cases h with
  | empty => rfl
  | @kept value value' hvalue =>
    by_cases hnone : value = .null
    · rw [hnone, (hleft _ _ hvalue).2 hnone]
    · rw [optional_of_ne_null hnone, optional_of_ne_null (mt (hleft _ _ hvalue).1 hnone),
        hread _ _ hvalue]
  | gone hgone => exact absurd hgone hmay

theorem list?_of_forall₂ {items items' : List Json} {as : List α}
    (h : List.Forall₂ R items items')
    (hwithin : ∀ item item' a, R item item' → item? item = some a →
      item? item' = some (within item' a))
    (hread : list? item? (.array items) = some as) :
    list? item? (.array items') = some (List.zipWith within items' as) := by
  obtain ⟨_, hsame, hitems⟩ := list?_eq_some_iff.1 hread
  obtain rfl := Json.array.inj hsame
  refine list?_eq_some_iff.2 ⟨items', rfl, ?_⟩
  clear hread hsame
  induction h generalizing as with
  | nil =>
    obtain rfl := List.forall₂_nil_left_iff.1 hitems
    exact .nil
  | cons hfirst _ ih =>
    obtain ⟨a, rest, ha, hrest, rfl⟩ := List.forall₂_cons_left_iff.1 hitems
    exact .cons (hwithin _ _ _ hfirst ha) (ih hrest)

/-- A list (`list?`) is read with what is left of its items. -/
theorem SlotLeft.list_within {as : List α} (h : SlotLeft may (Each R) slot slot')
    (hrefl : ∀ item, R item item)
    (hwithin : ∀ item item' a, R item item' → item? item = some a →
      item? item' = some (within item' a))
    (hread : orElse [] (list? item?) slot = some as) :
    orElse [] (list? item?) slot' = some (List.zipWith within (itemsOf slot') as) := by
  cases h with
  | empty =>
    obtain rfl := Option.some.inj hread
    rfl
  | gone => rfl
  | kept hvalue =>
    cases hvalue with
    | array hitems => exact list?_of_forall₂ hitems hwithin hread
    | same value =>
      obtain ⟨items, rfl, -⟩ := list?_eq_some_iff.1 hread
      exact list?_of_forall₂ (List.forall₂_same.2 fun item _ => hrefl item) hwithin hread

theorem Each.list?_eq (h : Each R value value')
    (hitem : ∀ item item', R item item' → item? item' = item? item) :
    list? item? value' = list? item? value := by
  cases h with
  | same => rfl
  | array hitems =>
    simp only [list?]
    induction hitems with
    | nil => rfl
    | cons hfirst _ ih => rw [List.mapM_cons, List.mapM_cons, hitem _ _ hfirst, ih]

theorem SlotLeft.list_eq (h : SlotLeft may (Each R) slot slot') (hmay : ¬may)
    (hitem : ∀ item item', R item item' → item? item' = item? item) :
    orElse [] (list? item?) slot' = orElse [] (list? item?) slot := by
  cases h with
  | empty => rfl
  | kept hvalue => exact hvalue.list?_eq hitem
  | gone hgone => exact absurd hgone hmay

end Slots

/-! ## Unknown members -/

/-- What is no field of a record. -/
def Unknown (names : List String) (name : String) : Prop :=
  name ∉ names

section Plain

variable {may : String → Prop} {name : String} {names : List String} {j j' : Json}

/-- A field of a record whose values lose nothing is there as it was, or it is gone. -/
theorem Thinned.plain_field? (h : Thinned may (fun _ => Eq) j j')
    (hrecord : may name → IsRecord names j) (hname : name ∈ names) (place : Nat) :
    SlotLeft (may name) Eq (j.field? place name) (j'.field? place name) :=
  h.field? (fun _ => rfl) hrecord hname place

/-- The fields of such a record are what they were, if only unknown members are gone. -/
theorem Thinned.plain_field?_eq (h : Thinned (Unknown names) (fun _ => Eq) j j')
    (hname : name ∈ names) (place : Nat) : j'.field? place name = j.field? place name :=
  (h.plain_field? (absurd hname) hname place).eq_of_not (not_not_intro hname)

end Plain

theorem Thinned.isRecord_iff_of_unknown {R : String → Json → Json → Prop} {names : List String}
    {j j' : Json} (h : Thinned (Unknown names) R j j') : IsRecord names j' ↔ IsRecord names j :=
  h.isRecord_iff fun _ => not_not_intro

end Gadfly.Json
