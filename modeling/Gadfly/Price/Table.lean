/-
  Gadfly.Price.Table

  What models cost.

  A `Table` gives the `Rates` of models, in dollars for a thousand tokens, under their `canonical`
  names. Its entries are kept in ascending order of the names, one entry for a name; setting rates
  again replaces them (`set`, `setAll`). `find?` tries the `candidates` of a name in order. A
  model that the table does not know costs nothing (`rates`, `Rates.free`).

  Main definitions: `Rates`, `Table`, `Table.set`, `Table.setAll`, `Table.find?`, `Table.rates`,
  `Table.builtIn`.
-/

import Gadfly.Price.Name

namespace Gadfly.Price

/-- Dollars for a thousand tokens read and for a thousand tokens written (`ModelPricing`). -/
structure Rates where
  input : Float
  output : Float

/-- The rates of a model nobody knows (`FREE`). -/
def Rates.free : Rates := ⟨0.0, 0.0⟩

/-- Rates by canonical name (`PricingTable`). -/
structure Table where
  /-- In ascending order of the names, without repetition. -/
  entries : List (String × Rates)

namespace Table

/-! ## Building -/

/-- The table without entries. -/
def empty : Table := ⟨[]⟩

/-- Puts an entry in its place, over an entry of the same name. -/
def insertEntry (name : String) (rates : Rates) : List (String × Rates) → List (String × Rates)
  | [] => [(name, rates)]
  | (other, there) :: rest =>
    if name = other then (name, rates) :: rest
    else if name < other then (name, rates) :: (other, there) :: rest
    else (other, there) :: insertEntry name rates rest

/-- Sets the rates of a model, under any spelling of its name (`with_price`). -/
def set (table : Table) (name : String) (rates : Rates) : Table :=
  ⟨insertEntry (canonical name) rates table.entries⟩

/-- Sets the rates of several models, one after the other (`with_overrides`). -/
def setAll (table : Table) (entries : List (String × Rates)) : Table :=
  entries.foldl (fun t (name, rates) => t.set name rates) table

@[simp] theorem setAll_nil (table : Table) : table.setAll [] = table := rfl

@[simp] theorem setAll_cons (table : Table) (name : String) (rates : Rates)
    (entries : List (String × Rates)) :
    table.setAll ((name, rates) :: entries) = (table.set name rates).setAll entries := rfl

/-- The rates known from the start (`with_defaults`). -/
def builtIn : Table :=
  empty.setAll [
    ("gpt-4o", ⟨0.0025, 0.01⟩), ("gpt-4o-mini", ⟨0.00015, 0.0006⟩),
    ("chatgpt-4o-latest", ⟨0.005, 0.015⟩),
    ("gpt-4.1", ⟨0.002, 0.008⟩), ("gpt-4.1-mini", ⟨0.0004, 0.0016⟩),
    ("gpt-4.1-nano", ⟨0.0001, 0.0004⟩),
    ("o1", ⟨0.015, 0.06⟩), ("o1-mini", ⟨0.0011, 0.0044⟩), ("o3", ⟨0.002, 0.008⟩),
    ("o3-mini", ⟨0.0011, 0.0044⟩), ("o4-mini", ⟨0.0011, 0.0044⟩),
    ("gpt-4-turbo", ⟨0.01, 0.03⟩), ("gpt-3.5-turbo", ⟨0.0005, 0.0015⟩)]

/-! ## Looking up -/

/-- The rates of the entry with exactly this name. -/
def lookup? (table : Table) (name : String) : Option Rates :=
  (table.entries.find? (·.1 == name)).map (·.2)

/-- A new entry is found under its own name, and hides no other. -/
theorem find?_insertEntry (name : String) (rates : Rates) (entries : List (String × Rates))
    (query : String) :
    ((insertEntry name rates entries).find? (·.1 == query)).map (·.2) =
      if name = query then some rates else (entries.find? (·.1 == query)).map (·.2) := by
  induction entries with
  | nil => by_cases h : name = query <;> simp [insertEntry, h]
  | cons entry rest ih =>
    obtain ⟨other, there⟩ := entry
    simp only [insertEntry]
    by_cases same : name = other
    · subst same
      by_cases h : name = query <;> simp [h]
    · rw [if_neg same]
      split
      · by_cases h : name = query <;> simp [h]
      · by_cases h : other = query
        · subst h
          simp [same]
        · simpa [h] using ih

/-- Setting rates is seen under the canonical name, and nowhere else. -/
theorem lookup?_set (table : Table) (name : String) (rates : Rates) (query : String) :
    (table.set name rates).lookup? query =
      if canonical name = query then some rates else table.lookup? query :=
  find?_insertEntry (canonical name) rates table.entries query

/-- The rates of a model (`get`): those of the first of its `candidates` that has an entry. -/
def find? (table : Table) (name : String) : Option Rates :=
  (candidates name).findSome? table.lookup?

/-- The rates of a model (`price_for`): by `find?`, and `Rates.free` for a model that the table does
not know. -/
def rates (table : Table) (name : String) : Rates :=
  (table.find? name).getD Rates.free

/-- The names of the entries, in ascending order. -/
def models (table : Table) : List String :=
  table.entries.map (·.1)

/-- The number of entries. -/
def size (table : Table) : Nat :=
  table.entries.length

@[simp] theorem models_empty : empty.models = [] := rfl

@[simp] theorem length_models (table : Table) : table.models.length = table.size := by
  simp [models, size]

end Table

end Gadfly.Price
