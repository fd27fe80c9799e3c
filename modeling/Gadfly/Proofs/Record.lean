/-
  Gadfly.Proofs.Record

  Reading records and lists.

  `fields?` reads a record into slots, whichever way it is written. What fills a slot is told here
  by the field that it was written as (`field?`), and a list is told by its items
  (`list?_eq_some_iff`). A value that nothing is wrong with (`Proper`) is read as itself by
  `value?`, where any value may stand. Of the values in which no name is repeated and that are not
  too deep (`Unambiguous`), all others are refused.

  Main definitions: `Json.field?`, `Json.Proper`, `Json.Unambiguous`.
  Main statements: `Json.field?_of_fields?`, `Json.list?_eq_some_iff`, `Json.list?_eq_none_iff`,
  `Json.value?_of_proper`, `Json.value?_eq_none_of_not_proper`.
-/

import Mathlib.Data.List.Forall2
import Mathlib.Data.Option.Basic
import Gadfly.Json.Decode
import Gadfly.Proofs.Digits

namespace Gadfly.Json

/-! ## Members -/

section Members

variable {name other : String} {members more : List (String × Json)} {j : Json}

@[simp] theorem find?_nil : find? [] name = none := rfl

@[simp] theorem find?_cons :
    find? ((other, j) :: members) name = if other = name then some j else find? members name := by
  by_cases hsame : other = name <;> simp [find?, hsame]

@[simp] theorem find?_append :
    find? (members ++ more) name = (find? members name).or (find? more name) := by
  rw [find?, List.find?_append, Option.map_or]
  rfl

@[simp] theorem occurrences_nil : occurrences [] name = 0 := rfl

@[simp] theorem occurrences_cons :
    occurrences ((other, j) :: members) name =
      occurrences members name + if other = name then 1 else 0 := by
  simp [occurrences, List.countP_cons]

@[simp] theorem occurrences_append :
    occurrences (members ++ more) name = occurrences members name + occurrences more name :=
  List.countP_append

theorem find?_eq_none_iff : find? members name = none ↔ occurrences members name = 0 := by
  rw [find?, occurrences, Option.map_eq_none_iff, List.find?_eq_none, List.countP_eq_zero]

end Members

/-! ## Fields -/

/-- A field of a record that is written as an object, or as an array with the field in a place. -/
def field? (place : Nat) (name : String) : Json → Option Json
  | .object members => find? members name
  | .array items => items[place]?
  | _ => none

theorem field?_of_fields? {names : List String} {j : Json} {slots : List (Option Json)}
    (h : fields? names j = some slots) {place : Nat} {name : String}
    (hname : names[place]? = some name) : j.field? place name = slots[place]?.join := by
  cases j with
  | object members =>
    rw [fields?] at h
    split at h
    · cases h
    · obtain rfl := Option.some.inj h
      rw [field?, List.getElem?_map, hname]
      rfl
  | array items =>
    rw [fields?] at h
    split at h
    · cases h
    · obtain rfl := Option.some.inj h
      rw [field?]
      by_cases hplace : place < items.length
      · rw [List.getElem?_append_left (by simpa using hplace), List.getElem?_map,
          List.getElem?_eq_getElem hplace]
        rfl
      · -- The array stops before this field.
        have hend : items[place]? = none := List.getElem?_eq_none (Nat.le_of_not_lt hplace)
        rw [List.getElem?_append_right (by simpa using hplace), List.getElem?_replicate, hend]
        split <;> rfl
  | _ => cases h

/-- Whether a value is a record with these fields: an object that gives none of them twice, or an
array that is not too long. -/
def IsRecord (names : List String) (j : Json) : Prop :=
  fields? names j ≠ none

/-- The slots of a record hold its fields. -/
theorem fields?_eq_some_iff {names : List String} {j : Json} {slots : List (Option Json)} :
    fields? names j = some slots ↔
      IsRecord names j ∧ slots = names.mapIdx fun place name => j.field? place name := by
  have hslots {slots : List (Option Json)} (h : fields? names j = some slots) :
      slots = names.mapIdx fun place name => j.field? place name := by
    have hlength := length_of_fields? h
    refine List.ext_getElem (by rw [hlength, List.length_mapIdx]) fun place hplace hname => ?_
    rw [List.length_mapIdx] at hname
    rw [List.getElem_mapIdx, field?_of_fields? h (List.getElem?_eq_getElem hname),
      List.getElem?_eq_getElem hplace]
    rfl
  constructor
  · intro h
    exact ⟨Option.ne_none_iff_exists'.2 ⟨slots, h⟩, hslots h⟩
  · rintro ⟨hrecord, rfl⟩
    obtain ⟨slots, h⟩ := Option.ne_none_iff_exists'.1 hrecord
    rw [h, hslots h]

theorem isRecord_object_iff {names : List String} {members : List (String × Json)} :
    IsRecord names (.object members) ↔ ∀ name ∈ names, occurrences members name ≤ 1 := by
  simp [IsRecord, fields?]

variable {α : Type} {item? : Json → Option α} {slot : Option Json} {j : Json} {s : String}

theorem text?_eq_some_iff : j.text? = some s ↔ j = .string s := by
  cases j <;> simp [text?]

/-- A natural number below the bound is read again. -/
theorem natural?_ofNat (bound n : Nat) :
    (Json.ofNat n).natural? bound = if n < bound then some n else none := by
  simp [natural?, ofNat, Numeral.ofNat, Numeral.natural?, Numeral.isWhole]

theorem required_eq_some_iff {value? : Json → Option α} {value : α} :
    required value? slot = some value ↔ ∃ j, slot = some j ∧ value? j = some value := by
  cases slot <;> simp [required]

theorem required_text?_eq_some_iff : required text? slot = some s ↔ slot = some (.string s) := by
  rw [required_eq_some_iff]
  simp only [text?_eq_some_iff, exists_eq_right]

/-- What may be left out is there exactly if its slot is filled with a value. -/
theorem eq_of_optional {value? : Json → Option α} {value : Option α}
    (hnull : value? .null = none) (h : optional value? slot = some value) :
    value = slot.bind value? := by
  rw [optional.eq_def] at h
  split at h
  · exact (Option.some.inj h).symm
  · rw [Option.bind_some, hnull]
    exact (Option.some.inj h).symm
  · obtain ⟨a, ha, rfl⟩ := Option.map_eq_some_iff.1 h
    exact ha.symm

theorem eq_of_orElse {value? : Json → Option α} {absent value : α}
    (h : orElse absent value? slot = some value) : value = (slot.bind value?).getD absent := by
  cases slot with
  | none => exact (Option.some.inj h).symm
  | some j =>
    rw [orElse] at h
    rw [Option.bind_some, h]
    rfl

theorem optional_of_ne_null {value? : Json → Option α} (h : j ≠ .null) :
    optional value? (some j) = (value? j).map some := by
  cases j with
  | null => exact absurd rfl h
  | _ => rfl

theorem optional_of_some {value? : Json → Option α} {a : α} (hnull : value? .null = none)
    (h : value? j = some a) : optional value? (some j) = some (some a) := by
  have hvalue : j ≠ .null := by
    rintro rfl
    rw [hnull] at h
    cases h
  rw [optional_of_ne_null hvalue, h]
  rfl

/-- What may be left out is read again as it was written. -/
theorem optional_map {value? : Json → Option α} {write : α → Json} {a : Option α}
    (hnull : value? .null = none) (hread : ∀ x ∈ a, value? (write x) = some x) :
    optional value? (a.map write) = some a := by
  cases a with
  | none => rfl
  | some x => exact optional_of_some hnull (hread x rfl)

theorem lt_of_natural? {bound n : Nat} (h : j.natural? bound = some n) : n < bound := by
  cases j with
  | number numeral =>
    rw [natural?, Numeral.natural?] at h
    split at h
    · rename_i hfits
      obtain rfl := Option.some.inj h
      exact of_decide_eq_true (Bool.and_eq_true_iff.1 hfits).2
    · cases h
  | _ => cases h

theorem lt_of_orElse_natural? {bound n : Nat} (hpos : 0 < bound)
    (h : orElse 0 (natural? bound) slot = some n) : n < bound := by
  cases slot with
  | none => exact Option.some.inj h ▸ hpos
  | some j => exact lt_of_natural? h

/-! ## Lists -/

theorem mapM_eq_some_iff {items : List Json} {values : List α} :
    items.mapM item? = some values ↔ List.Forall₂ (fun j a => item? j = some a) items values := by
  induction items generalizing values with
  | nil =>
    rw [List.mapM_nil, List.forall₂_nil_left_iff]
    exact ⟨fun h => (Option.some.inj h).symm, fun h => congrArg some h.symm⟩
  | cons j items ih =>
    rw [List.mapM_cons, List.forall₂_cons_left_iff]
    simp only [Option.bind_eq_bind, Option.bind_eq_some_iff, Option.pure_def, ih]
    constructor
    · rintro ⟨a, hj, rest, hrest, hvalues⟩
      exact ⟨a, rest, hj, hrest, (Option.some.inj hvalues).symm⟩
    · rintro ⟨a, rest, hj, hrest, hvalues⟩
      exact ⟨a, hj, rest, hrest, congrArg some hvalues.symm⟩

theorem list?_eq_some_iff {values : List α} :
    list? item? j = some values ↔
      ∃ items, j = .array items ∧ List.Forall₂ (fun j a => item? j = some a) items values := by
  cases j <;> simp [list?, mapM_eq_some_iff]

/-- An array is not read by `list?` exactly if one of its items is not read. -/
theorem list?_eq_none_iff {items : List Json} :
    list? item? (.array items) = none ↔ ∃ j ∈ items, item? j = none := by
  rw [list?]
  induction items with
  | nil => simp
  | cons j items ih =>
    rw [List.mapM_cons, List.exists_mem_cons_iff, ← ih]
    cases item? j with
    | none => simp
    | some a => cases items.mapM item? <;> simp

theorem list?_map {β : Type} (f : α → β) (j : Json) :
    list? (fun j => (item? j).map f) j = (list? item? j).map (List.map f) := by
  cases j with
  | array items =>
    simp only [list?]
    induction items with
    | nil => rfl
    | cons item items ih =>
      rw [List.mapM_cons, List.mapM_cons, ih]
      cases item? item with
      | none => rfl
      | some a => cases items.mapM item? <;> rfl
  | _ => rfl

/-- A list is read again as it was written. -/
theorem list?_map_array {write : α → Json} {as : List α}
    (hread : ∀ x ∈ as, item? (write x) = some x) :
    list? item? (.array (as.map write)) = some as := by
  refine list?_eq_some_iff.2 ⟨_, rfl, ?_⟩
  rw [List.forall₂_map_left_iff]
  exact List.forall₂_same.2 hread

/-! ## Free values -/

/-- A value with nothing wrong in it: all of it can be read, its numbers have values, no object
in it gives a name twice, and it is nested at most so deep. -/
inductive Proper : (depth : Nat) → Json → Prop
  | null {depth : Nat} : Proper depth .null
  | bool {depth : Nat} (value : Bool) : Proper depth (.bool value)
  | number {depth : Nat} {n : Numeral} (hvalue : hasValue n = true) : Proper depth (.number n)
  | string {depth : Nat} (s : String) : Proper depth (.string s)
  | array {depth : Nat} {items : List Json} (hitems : ∀ item ∈ items, Proper depth item) :
      Proper (depth + 1) (.array items)
  | object {depth : Nat} {members : List (String × Json)}
      (hmembers : ∀ member ∈ members, Proper depth member.2)
      (hnames : (members.map (·.1)).Nodup) : Proper (depth + 1) (.object members)

attribute [simp] Proper.null Proper.bool Proper.string

@[simp] theorem proper_array_iff {depth : Nat} {items : List Json} :
    Proper (depth + 1) (.array items) ↔ ∀ item ∈ items, Proper depth item := by
  constructor
  · rintro ⟨⟩
    assumption
  · exact .array

@[simp] theorem proper_object_iff {depth : Nat} {members : List (String × Json)} :
    Proper (depth + 1) (.object members) ↔
      (∀ member ∈ members, Proper depth member.2) ∧ (members.map (·.1)).Nodup := by
  constructor
  · rintro ⟨⟩
    exact ⟨‹_›, ‹_›⟩
  · exact fun h => .object h.1 h.2

theorem setMember_of_not_mem {name : String} {value : Json} {members : List (String × Json)}
    (h : name ∉ members.map (·.1)) : setMember name value members = members ++ [(name, value)] := by
  induction members with
  | nil => rfl
  | cons member rest ih =>
    rw [List.map_cons, List.mem_cons, not_or] at h
    rw [setMember, if_neg h.1, ih h.2, List.cons_append]

theorem values?_of_forall {depth : Nat} {items : List Json}
    (h : ∀ item ∈ items, value? depth item = some item) : values? depth items = some items := by
  induction items with
  | nil => rfl
  | cons item items ih =>
    rw [List.forall_mem_cons] at h
    simp [values?, h.1, ih h.2]

/-- Members of different names are put one behind the other. -/
theorem memberValues?_of_forall {depth : Nat} {members done : List (String × Json)}
    (h : ∀ member ∈ members, value? depth member.2 = some member.2)
    (hnames : ((done ++ members).map (·.1)).Nodup) :
    memberValues? depth members done = some (done ++ members) := by
  induction members generalizing done with
  | nil => rw [memberValues?, List.append_nil]
  | cons member members ih =>
    obtain ⟨name, value⟩ := member
    rw [List.forall_mem_cons] at h
    have hnew : name ∉ done.map (·.1) := by
      rw [List.map_append, List.map_cons] at hnames
      exact fun hmem => (List.nodup_append.1 hnames).2.2 _ hmem _ List.mem_cons_self rfl
    rw [List.append_cons] at hnames ⊢
    rw [memberValues?, h.1]
    simp only [Option.bind_eq_bind, Option.bind_some]
    rw [setMember_of_not_mem hnew]
    exact ih h.2 hnames

/-- A `Proper` value is read by `value?` as itself. -/
theorem value?_of_proper {depth : Nat} (h : Proper depth j) : value? depth j = some j := by
  induction h with
  | null => rfl
  | bool value => rfl
  | number hvalue => rw [value?, if_pos hvalue]
  | string s => rfl
  | array hitems ih =>
    rw [value?, if_neg (Nat.succ_ne_zero _), Nat.add_sub_cancel, values?_of_forall ih]
    rfl
  | object hmembers hnames ih =>
    rw [value?, if_neg (Nat.succ_ne_zero _), Nat.add_sub_cancel,
      memberValues?_of_forall ih (by simpa using hnames)]
    rfl

/-! ## Values that are refused -/

/-- A value in which no object gives a name twice, and that is nested at most so deep. What is
unreadable counts as one piece. -/
inductive Unambiguous : (depth : Nat) → Json → Prop
  | null {depth : Nat} : Unambiguous depth .null
  | bool {depth : Nat} (value : Bool) : Unambiguous depth (.bool value)
  | number {depth : Nat} (n : Numeral) : Unambiguous depth (.number n)
  | string {depth : Nat} (s : String) : Unambiguous depth (.string s)
  | unreadable {depth : Nat} : Unambiguous depth .unreadable
  | array {depth : Nat} {items : List Json}
      (hitems : ∀ item ∈ items, Unambiguous depth item) : Unambiguous (depth + 1) (.array items)
  | object {depth : Nat} {members : List (String × Json)}
      (hmembers : ∀ member ∈ members, Unambiguous depth member.2)
      (hnames : (members.map (·.1)).Nodup) : Unambiguous (depth + 1) (.object members)

attribute [simp] Unambiguous.null Unambiguous.bool Unambiguous.number Unambiguous.string
  Unambiguous.unreadable

@[simp] theorem unambiguous_array_iff {depth : Nat} {items : List Json} :
    Unambiguous (depth + 1) (.array items) ↔ ∀ item ∈ items, Unambiguous depth item := by
  constructor
  · rintro ⟨⟩
    assumption
  · exact .array

@[simp] theorem unambiguous_object_iff {depth : Nat} {members : List (String × Json)} :
    Unambiguous (depth + 1) (.object members) ↔
      (∀ member ∈ members, Unambiguous depth member.2) ∧ (members.map (·.1)).Nodup := by
  constructor
  · rintro ⟨⟩
    exact ⟨‹_›, ‹_›⟩
  · exact fun h => .object h.1 h.2

theorem values?_eq_none {depth : Nat} {items : List Json}
    (h : ∃ item ∈ items, value? depth item = none) : values? depth items = none := by
  induction items with
  | nil => simp at h
  | cons item items ih =>
    rw [List.exists_mem_cons_iff] at h
    rw [values?]
    cases hitem : value? depth item with
    | none => rfl
    | some value =>
      rw [hitem] at h
      rw [ih (h.resolve_left nofun)]
      rfl

theorem memberValues?_eq_none {depth : Nat} {members : List (String × Json)}
    (h : ∃ member ∈ members, value? depth member.2 = none) (done : List (String × Json)) :
    memberValues? depth members done = none := by
  induction members generalizing done with
  | nil => simp at h
  | cons member members ih =>
    rw [List.exists_mem_cons_iff] at h
    rw [memberValues?]
    cases hmember : value? depth member.2 with
    | none => rfl
    | some value =>
      rw [hmember] at h
      exact ih (h.resolve_left nofun) _

/-- Of the values in which nothing is repeated and that are not too deep (`Unambiguous`), just the
`Proper` ones are read. -/
theorem value?_eq_none_of_not_proper {depth : Nat} (h : Unambiguous depth j)
    (himproper : ¬Proper depth j) : value? depth j = none := by
  -- Along the value: what is wrong with a list is wrong with something in it, and refused there.
  induction h with
  | null => exact absurd .null himproper
  | bool value => exact absurd (.bool value) himproper
  | number n => rw [value?, if_neg fun hvalue => himproper (.number hvalue)]
  | string s => exact absurd (.string s) himproper
  | unreadable => rfl
  | @array depth items _ ih =>
    obtain ⟨item, hitem, hbad⟩ : ∃ item ∈ items, ¬Proper depth item := by
      simpa using himproper
    rw [value?, if_neg (Nat.succ_ne_zero _), Nat.add_sub_cancel,
      values?_eq_none ⟨item, hitem, ih item hitem hbad⟩]
    rfl
  | @object depth members _ hnames ih =>
    obtain ⟨member, hmember, hbad⟩ : ∃ member ∈ members, ¬Proper depth member.2 := by
      rw [proper_object_iff, and_iff_left hnames, not_forall₂] at himproper
      simpa only [exists_prop] using himproper
    rw [value?, if_neg (Nat.succ_ne_zero _), Nat.add_sub_cancel,
      memberValues?_eq_none ⟨member, hmember, ih member hmember hbad⟩]
    rfl

end Gadfly.Json
