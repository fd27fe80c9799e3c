/-
  Gadfly.Json.Decode

  Taking JSON values apart.

  A record is written as an object with its fields as members, or as an array of its fields in
  order. `fields?` reads either form into one slot for each field: unknown members are passed
  over, a field given twice is refused, and the array may stop early but not run over. What an
  empty slot means is decided field by field, by `required`, `orElse` and `optional`.

  `value?` reads a value whose structure is not known beforehand. It refuses what is nested too
  deeply and numbers without a double, and of members with one name it keeps the last.

  Main definitions: `Json.fields?`, `Json.text?`, `Json.flag?`, `Json.natural?`, `Json.list?`,
  `required`, `orElse`, `optional`, `Json.value?`.
-/

import Gadfly.Json.Basic

namespace Gadfly.Json

/-! ## Scalars and lists -/

/-- The text of a string. -/
def text? : Json → Option String
  | .string s => some s
  | _ => none

/-- The truth value of a Boolean. -/
def flag? : Json → Option Bool
  | .bool b => some b
  | _ => none

/-- The natural number below `bound` that is written as a whole number. -/
def natural? (bound : Nat) : Json → Option Nat
  | .number n => n.natural? bound
  | _ => none

/-- Every item of an array. -/
def list? {α : Type} (item? : Json → Option α) : Json → Option (List α)
  | .array items => items.mapM item?
  | _ => none

/-! ## Records -/

/-- How often a name occurs among members. -/
def occurrences (members : List (String × Json)) (name : String) : Nat :=
  members.countP (·.1 == name)

/-- One slot for each of the named fields. -/
def fields? (names : List String) : Json → Option (List (Option Json))
  | .object members =>
    if names.any fun name => 1 < occurrences members name then none
    else some (names.map (find? members))
  | .array items =>
    if names.length < items.length then none
    else some (items.map some ++ List.replicate (names.length - items.length) none)
  | _ => none

/-- A record has as many slots as fields. -/
theorem length_of_fields? {names : List String} {j : Json} {slots : List (Option Json)}
    (h : fields? names j = some slots) : slots.length = names.length := by
  cases j <;> simp only [fields?, reduceCtorEq] at h
  · split at h
    · simp at h
    · obtain rfl := Option.some.inj h
      simp
      omega
  · split at h
    · simp at h
    · obtain rfl := Option.some.inj h
      simp

/-- A field that has to be there. -/
def required {α : Type} (value? : Json → Option α) : Option Json → Option α
  | some j => value? j
  | none => none

/-- A field that has a value of its own when it is left out. -/
def orElse {α : Type} (absent : α) (value? : Json → Option α) : Option Json → Option α
  | some j => value? j
  | none => some absent

/-- A field that may be left out or `null`. -/
def optional {α : Type} (value? : Json → Option α) : Option Json → Option (Option α)
  | none => some none
  | some .null => some none
  | some j => (value? j).map some

/-! ## Free values -/

/-- How many arrays and objects a text may open inside each other. -/
def maxDepth : Nat := 127

/-- Whether a number has a value: a whole number of 64 bits or a finite double. -/
def hasValue (n : Numeral) : Bool :=
  n.toFloat?.isSome

/-- Keeps the last of the members with one name, in the place of the first. -/
def setMember (name : String) (value : Json) :
    List (String × Json) → List (String × Json)
  | [] => [(name, value)]
  | (other, there) :: rest =>
    if name = other then (name, value) :: rest else (other, there) :: setMember name value rest

mutual

/-- A value of any structure, nested at most `depth` deep. -/
def value? (depth : Nat) : Json → Option Json
  | .unreadable => none
  | .number n => if hasValue n then some (.number n) else none
  | .array items => if depth = 0 then none else (values? (depth - 1) items).map .array
  | .object members =>
    if depth = 0 then none else (memberValues? (depth - 1) members []).map .object
  | j => some j

/-- Every item, as by `value?`. -/
def values? (depth : Nat) : List Json → Option (List Json)
  | [] => some []
  | item :: items => do
    let item ← value? depth item
    let items ← values? depth items
    some (item :: items)

/-- Every member, as by `value?`, put in place among those that came before. -/
def memberValues? (depth : Nat) :
    List (String × Json) → List (String × Json) → Option (List (String × Json))
  | [], done => some done
  | (name, value) :: rest, done => do
    let value ← value? depth value
    memberValues? depth rest (setMember name value done)

end

end Gadfly.Json
