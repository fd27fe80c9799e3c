/-
  Gadfly.Proofs.PriceTable

  What a price table knows, however it was built.

  A table starts empty or with the rates known from the start, and rates are added to it, one by
  one (`Table.set`) or several at a time (`Table.setAll`); `Table.Built` says so. Its names are
  canonical and in strictly ascending order. What it says of a name is what was last added under a
  spelling of that name (`lookup?_setAll`), so a later addition can change only what is known of
  models that have its name among their `candidates`.

  The entries of the settings come in no particular order. The names in the table do not depend on
  it, and the rates do not exactly if the entries agree (`Settings.Agrees`): if no two of them
  give different rates to spellings of one name.

  Main definitions: `Table.Built`, `Table.Kept`, `additionsFor`, `Settings.pricesBy`,
  `Settings.Agrees`.
  Main statements: `Table.lookup?_setAll`, `Table.find?_set_of_not_mem`, `Table.kept_of_built`,
  `Settings.prices_in_any_order_iff`.
-/

import Mathlib.Data.List.Basic
import Gadfly.Proofs.Canonical
import Gadfly.Settings.Basic

namespace Gadfly

namespace Price

/-- The additions whose `canonical` name is a given one, in order. -/
def additionsFor (added : List (String × Rates)) (name : String) : List (String × Rates) :=
  added.filter fun addition => canonical addition.1 = name

theorem mem_additionsFor {added : List (String × Rates)} {name : String}
    {addition : String × Rates} :
    addition ∈ additionsFor added name ↔ addition ∈ added ∧ canonical addition.1 = name := by
  rw [additionsFor, List.mem_filter, decide_eq_true_iff]

theorem additionsFor_cons (addition : String × Rates) (rest : List (String × Rates))
    (name : String) :
    additionsFor (addition :: rest) name =
      if canonical addition.1 = name then addition :: additionsFor rest name
      else additionsFor rest name := by
  simp only [additionsFor, List.filter_cons, decide_eq_true_eq]

namespace Table

/-! ## Names -/

theorem mem_map_insertEntry {name other : String} {rates : Rates}
    {entries : List (String × Rates)} :
    other ∈ (insertEntry name rates entries).map (·.1) ↔
      other = name ∨ other ∈ entries.map (·.1) := by
  induction entries with
  | nil => simp [insertEntry]
  | cons entry rest ih =>
    obtain ⟨first, there⟩ := entry
    rw [insertEntry]
    split
    · rename_i hsame
      subst hsame
      simp
    · split
      · simp
      · rw [List.map_cons, List.mem_cons, ih, List.map_cons, List.mem_cons]
        exact or_left_comm

theorem pairwise_insertEntry {name : String} {rates : Rates} {entries : List (String × Rates)}
    (h : (entries.map (·.1)).Pairwise (· < ·)) :
    ((insertEntry name rates entries).map (·.1)).Pairwise (· < ·) := by
  induction entries with
  | nil => exact List.pairwise_singleton _ _
  | cons entry rest ih =>
    obtain ⟨first, there⟩ := entry
    rw [List.map_cons, List.pairwise_cons] at h
    obtain ⟨hfirst, hrest⟩ := h
    rw [insertEntry]
    split
    · rename_i hsame
      subst hsame
      rw [List.map_cons, List.pairwise_cons]
      exact ⟨hfirst, hrest⟩
    · rename_i hother
      split
      · rename_i hlt
        rw [List.map_cons, List.map_cons, List.pairwise_cons, List.pairwise_cons]
        refine ⟨fun x hx => ?_, hfirst, hrest⟩
        obtain rfl | hx := List.mem_cons.1 hx
        · exact hlt
        · exact String.lt_trans hlt (hfirst x hx)
      · rename_i hnlt
        have hgt : first < name :=
          Decidable.not_not.1 fun hngt => hother (String.le_antisymm hngt hnlt)
        rw [List.map_cons, List.pairwise_cons]
        refine ⟨fun x hx => ?_, ih hrest⟩
        obtain rfl | hx := mem_map_insertEntry.1 hx
        · exact hgt
        · exact hfirst x hx

theorem mem_models_set {table : Table} {name other : String} {rates : Rates} :
    other ∈ (table.set name rates).models ↔ other = canonical name ∨ other ∈ table.models :=
  mem_map_insertEntry

theorem mem_models_setAll {table : Table} {added : List (String × Rates)} {name : String} :
    name ∈ (table.setAll added).models ↔
      (∃ addition ∈ added, canonical addition.1 = name) ∨ name ∈ table.models := by
  induction added generalizing table with
  | nil => simp
  | cons addition rest ih =>
    obtain ⟨first, rates⟩ := addition
    rw [setAll_cons, ih, mem_models_set, List.exists_mem_cons_iff, or_assoc, or_left_comm,
      eq_comm]

/-- The names of a table are canonical, and in strictly ascending order. -/
structure InOrder (table : Table) : Prop where
  canonical : ∀ name ∈ table.models, canonical name = name
  ascending : table.models.Pairwise (· < ·)

theorem inOrder_empty : empty.InOrder :=
  ⟨fun _ hname => absurd hname List.not_mem_nil, List.Pairwise.nil⟩

theorem InOrder.set {table : Table} (h : table.InOrder) (name : String) (rates : Rates) :
    (table.set name rates).InOrder := by
  refine ⟨fun other hother => ?_, pairwise_insertEntry h.ascending⟩
  obtain rfl | hother := mem_models_set.1 hother
  · exact canonical_canonical name
  · exact h.canonical other hother

theorem InOrder.setAll {table : Table} (h : table.InOrder) (added : List (String × Rates)) :
    (table.setAll added).InOrder := by
  induction added generalizing table with
  | nil => exact h
  | cons addition rest ih => exact ih (h.set addition.1 addition.2)

theorem inOrder_builtIn : builtIn.InOrder :=
  inOrder_empty.setAll _

example : builtIn.models =
    ["chatgpt-4o-latest", "gpt-3.5-turbo", "gpt-4-turbo", "gpt-4.1", "gpt-4.1-mini",
      "gpt-4.1-nano", "gpt-4o", "gpt-4o-mini", "o1", "o1-mini", "o3", "o3-mini", "o4-mini"] := by
  decide +kernel

theorem InOrder.nodup {table : Table} (h : table.InOrder) : table.models.Nodup := by
  apply h.ascending.imp
  rintro name _ hlt rfl
  exact String.lt_irrefl name hlt

/-! ## Rates -/

/-- Under a name a table has what was last added for it (`additionsFor`), and else what it had
before. -/
theorem lookup?_setAll (table : Table) (added : List (String × Rates)) (name : String) :
    (table.setAll added).lookup? name =
      ((additionsFor added name).getLast?.map (·.2)).or (table.lookup? name) := by
  induction added generalizing table with
  | nil => rfl
  | cons addition rest ih =>
    obtain ⟨first, rates⟩ := addition
    rw [setAll_cons, ih, lookup?_set, additionsFor_cons]
    by_cases hsame : canonical first = name
    · rw [if_pos hsame, if_pos hsame, List.getLast?_cons]
      -- The first addition counts when there is no later one.
      cases (additionsFor rest name).getLast? <;> rfl
    · rw [if_neg hsame, if_neg hsame]

theorem candidates_eq_cons (name : String) :
    ∃ others, candidates name = canonical name :: others :=
  ⟨_, rfl⟩

/-- A model that is known under its canonical name has the rates under that name. -/
theorem find?_eq_of_lookup? {table : Table} {name : String} {rates : Rates}
    (h : table.lookup? (canonical name) = some rates) : table.find? name = some rates := by
  obtain ⟨others, hcandidates⟩ := candidates_eq_cons name
  rw [find?, hcandidates, List.findSome?_cons, h]

theorem find?_setAll_of_getLast? {table : Table} {added : List (String × Rates)} {name : String}
    {last : String × Rates} (h : (additionsFor added (canonical name)).getLast? = some last) :
    (table.setAll added).find? name = some last.2 := by
  apply find?_eq_of_lookup?
  rw [lookup?_setAll, h]
  rfl

/-- Tables that know the same of all candidates of a model know the same of the model. -/
theorem find?_congr {table other : Table} {query : String}
    (h : ∀ name ∈ candidates query, table.lookup? name = other.lookup? name) :
    table.find? query = other.find? query := by
  rw [find?, find?]
  generalize candidates query = names at h
  induction names with
  | nil => rfl
  | cons first rest ih =>
    rw [List.findSome?_cons, List.findSome?_cons, h first List.mem_cons_self]
    cases other.lookup? first with
    | some rates => rfl
    | none => exact ih fun name hname => h name (List.mem_cons_of_mem first hname)

/-- An addition (`set`) changes nothing for models that do not have its name among their
`candidates`. -/
theorem find?_set_of_not_mem (table : Table) {name query : String} (rates : Rates)
    (h : canonical name ∉ candidates query) :
    (table.set name rates).find? query = table.find? query := by
  apply find?_congr
  intro candidate hcandidate
  rw [lookup?_set, if_neg]
  rintro rfl
  exact h hcandidate

/-! ## Tables that were built -/

/-- A table was built from one of the two first tables, `empty` and `builtIn`, by additions, which
are listed in order. -/
inductive Built : Table → List (String × Rates) → Prop
  | empty : Built Table.empty []
  | builtIn : Built Table.builtIn []
  | set {table : Table} {added : List (String × Rates)} (h : Built table added) (name : String)
      (rates : Rates) : Built (table.set name rates) (added ++ [(name, rates)])
  | setAll {table : Table} {added : List (String × Rates)} (h : Built table added)
      (entries : List (String × Rates)) : Built (table.setAll entries) (added ++ entries)

theorem setAll_append (table : Table) (first second : List (String × Rates)) :
    table.setAll (first ++ second) = (table.setAll first).setAll second := by
  rw [setAll, setAll, setAll, List.foldl_append]

/-- All additions together are one addition of several. -/
theorem Built.exists_eq_setAll {table : Table} {added : List (String × Rates)}
    (h : Built table added) : ∃ start : Table, start.InOrder ∧ table = start.setAll added := by
  induction h with
  | empty => exact ⟨Table.empty, inOrder_empty, (setAll_nil _).symm⟩
  | builtIn => exact ⟨Table.builtIn, inOrder_builtIn, (setAll_nil _).symm⟩
  | set _ name rates ih =>
    obtain ⟨start, horder, rfl⟩ := ih
    exact ⟨start, horder, (setAll_append start _ [(name, rates)]).symm⟩
  | setAll _ entries ih =>
    obtain ⟨start, horder, rfl⟩ := ih
    exact ⟨start, horder, (setAll_append start _ entries).symm⟩

/-- What holds of a table to which rates were added. -/
structure Kept (table : Table) (added : List (String × Rates)) : Prop where
  canonical : ∀ name ∈ table.models, canonical name = name
  ascending : table.models.Pairwise (· < ·)
  length : table.models.length = table.size
  /-- What was added last under a spelling of a name is found under all its spellings. -/
  latest : ∀ query, (∃ addition ∈ added, Price.canonical addition.1 = Price.canonical query) →
    ∃ last, (additionsFor added (Price.canonical query)).getLast? = some last ∧
      table.find? query = some last.2
  /-- One more addition is seen only where its name is a candidate. -/
  frame : ∀ name rates query, Price.canonical name ∉ candidates query →
    (table.set name rates).find? query = table.find? query

/-- However a table was `Built`, it is `Kept`: its names are canonical and ascending, the last
addition counts under every spelling, and an addition concerns no model but those that it could be
for. -/
theorem kept_of_built {table : Table} {added : List (String × Rates)} (h : table.Built added) :
    table.Kept added := by
  obtain ⟨start, horder, rfl⟩ := h.exists_eq_setAll
  have hkept := horder.setAll added
  refine ⟨hkept.canonical, hkept.ascending, length_models _, ?_, ?_⟩
  · rintro query ⟨addition, hadded, hsame⟩
    have hmem := mem_additionsFor.2 ⟨hadded, hsame⟩
    refine ⟨(additionsFor added (Price.canonical query)).getLast (List.ne_nil_of_mem hmem), ?_, ?_⟩
    · exact List.getLast?_eq_some_getLast _
    · exact find?_setAll_of_getLast? (List.getLast?_eq_some_getLast _)
  · intro name rates query hother
    exact find?_set_of_not_mem _ rates hother

/-- Of two spellings of one name the later counts, under a third. -/
theorem kept_of_two_spellings :
    let first : String × Rates := ("House_Model", ⟨1.0, 2.0⟩)
    let second : String × Rates := (" house  model ", ⟨3.0, 4.0⟩)
    let table := (Table.builtIn.set first.1 first.2).setAll [second]
    table.Kept [first, second] ∧ table.find? "HOUSE-MODEL" = some ⟨3.0, 4.0⟩ := by
  intro first second table
  have hkept : table.Kept [first, second] :=
    kept_of_built ((Built.builtIn.set _ _).setAll [second])
  have hfirst : Price.canonical first.1 = Price.canonical "HOUSE-MODEL" := by decide +kernel
  have hsecond : Price.canonical second.1 = Price.canonical "HOUSE-MODEL" := by decide +kernel
  have hboth : additionsFor [first, second] (Price.canonical "HOUSE-MODEL") =
      [first, second] := by
    rw [additionsFor_cons, if_pos hfirst, additionsFor_cons, if_pos hsecond]
    rfl
  obtain ⟨last, hlast, hfound⟩ := hkept.latest "HOUSE-MODEL" ⟨first, List.mem_cons_self, hfirst⟩
  rw [hboth] at hlast
  obtain rfl : second = last := Option.some.inj hlast
  exact ⟨hkept, hfound⟩

end Table

end Price

/-! ## The entries of the settings -/

namespace Settings

open Price

variable {first second added : List (String × Rates)}

/-- The price table in force (`prices`) when the entries of the settings come in an order. -/
def pricesBy (settings : Settings) (order : List (String × Rates)) : Table :=
  { settings with pricing := order }.prices

/-- No two entries of the settings give different rates to spellings of one name. -/
def Agrees (settings : Settings) : Prop :=
  ∀ a ∈ settings.pricing, ∀ b ∈ settings.pricing, canonical a.1 = canonical b.1 → a.2 = b.2

/-- The names in a table do not depend on the order of the additions. -/
theorem models_setAll_of_perm {table : Table} (h : table.InOrder) (hperm : first.Perm second) :
    (table.setAll first).models = (table.setAll second).models := by
  have hfirst := (h.setAll first).ascending
  have hsecond := (h.setAll second).ascending
  have hsame : ∀ name, name ∈ (table.setAll first).models ↔
      name ∈ (table.setAll second).models := by
    intro name
    rw [Table.mem_models_setAll, Table.mem_models_setAll]
    simp only [hperm.mem_iff]
  have hnames : (table.setAll first).models.Perm (table.setAll second).models := by
    rw [List.perm_ext_iff_of_nodup]
    · exact hsame
    · exact (h.setAll first).nodup
    · exact (h.setAll second).nodup
  -- The same names in ascending order are the same list.
  exact hnames.eq_of_pairwise (fun a b _ _ hab hba => absurd hab (String.lt_asymm hba))
    hfirst hsecond

/-- When the additions for a name agree, it does not matter which of them comes last. -/
theorem getLast?_additionsFor_of_perm (hperm : first.Perm second) {name : String}
    (hagree : ∀ a ∈ additionsFor first name, ∀ b ∈ additionsFor first name, a.2 = b.2) :
    (additionsFor first name).getLast?.map (·.2) =
      (additionsFor second name).getLast?.map (·.2) := by
  have hfor : (additionsFor first name).Perm (additionsFor second name) := hperm.filter _
  rcases hlast : (additionsFor first name).getLast? with _ | a
  · rw [List.getLast?_eq_none_iff] at hlast
    rw [hlast, List.nil_perm] at hfor
    rw [hfor]
    rfl
  · have ha : a ∈ additionsFor first name := List.mem_of_getLast? hlast
    have hne : additionsFor second name ≠ [] := List.ne_nil_of_mem (hfor.mem_iff.1 ha)
    rw [List.getLast?_eq_some_getLast hne, Option.map_some, Option.map_some]
    have hb := hfor.mem_iff.2 (List.getLast_mem hne)
    exact congrArg some (hagree a ha _ hb)

/-- Additions that agree make the same rates known in every order. -/
theorem find?_setAll_of_perm (table : Table) (hperm : first.Perm second)
    (hagree : ∀ a ∈ first, ∀ b ∈ first, canonical a.1 = canonical b.1 → a.2 = b.2)
    (model : String) : (table.setAll first).find? model = (table.setAll second).find? model := by
  apply Table.find?_congr
  intro name _
  rw [Table.lookup?_setAll, Table.lookup?_setAll, getLast?_additionsFor_of_perm hperm]
  intro a ha b hb
  obtain ⟨hafirst, ha⟩ := mem_additionsFor.1 ha
  obtain ⟨hbfirst, hb⟩ := mem_additionsFor.1 hb
  exact hagree a hafirst b hbfirst (ha.trans hb.symm)

/-- Any entry may come last, and then it counts. -/
theorem exists_order_of_mem (table : Table) {entry : String × Rates} (h : entry ∈ added) :
    ∃ order, order.Perm added ∧
      ∀ model, canonical entry.1 = canonical model →
        (table.setAll order).find? model = some entry.2 := by
  obtain ⟨before, after, rfl⟩ := List.append_of_mem h
  refine ⟨before ++ after ++ [entry], ?_, fun model hsame => ?_⟩
  · rw [List.append_assoc]
    exact List.Perm.append_left before List.perm_append_comm
  · apply Table.find?_setAll_of_getLast?
    have hlast : additionsFor [entry] (canonical model) = [entry] := by
      rw [additionsFor_cons, if_pos hsame]
      rfl
    rw [additionsFor, List.filter_append, ← additionsFor, ← additionsFor, hlast,
      List.getLast?_concat]

/-- The names in the price table (`models`) never depend on the order of the entries in the
settings, and the rates of models do not exactly if the entries agree (`Agrees`). -/
theorem prices_in_any_order_iff (settings : Settings) :
    (∀ first second, first.Perm settings.pricing → second.Perm settings.pricing →
      (settings.pricesBy first).models = (settings.pricesBy second).models) ∧
    ((∀ first second, first.Perm settings.pricing → second.Perm settings.pricing →
      ∀ model, (settings.pricesBy first).find? model = (settings.pricesBy second).find? model) ↔
        settings.Agrees) := by
  refine ⟨fun first second hfirst hsecond => ?_, fun hsame => ?_, fun hagrees => ?_⟩
  · exact models_setAll_of_perm Table.inOrder_builtIn (hfirst.trans hsecond.symm)
  · -- Each of two entries comes last in an order of its own.
    intro a ha b hb hname
    obtain ⟨first, hfirst, hfound⟩ := exists_order_of_mem Table.builtIn ha
    obtain ⟨second, hsecond, hother⟩ := exists_order_of_mem Table.builtIn hb
    have hrates := hsame first second hfirst hsecond a.1
    have hleft : (settings.pricesBy first).find? a.1 = some a.2 := hfound a.1 rfl
    have hright : (settings.pricesBy second).find? a.1 = some b.2 := hother a.1 hname.symm
    rw [hleft, hright] at hrates
    exact Option.some.inj hrates
  · intro first second hfirst hsecond model
    apply find?_setAll_of_perm Table.builtIn (hfirst.trans hsecond.symm)
    intro a ha b hb
    exact hagrees a (hfirst.mem_iff.1 ha) b (hfirst.mem_iff.1 hb)

/-- Settings with two spellings of one name, and a price for each. -/
def undecided : Settings :=
  { standard with pricing := [("GPT-4o", ⟨1.0, 2.0⟩), ("gpt-4o", ⟨3.0, 4.0⟩)] }

/-- The names of the entries differ, and the rates of a model depend on their order. -/
theorem order_decides_of_undecided :
    (undecided.pricing.map (·.1)).Nodup ∧
      ¬∀ first second, first.Perm undecided.pricing → second.Perm undecided.pricing →
        ∀ model, (undecided.pricesBy first).find? model =
          (undecided.pricesBy second).find? model := by
  refine ⟨by decide +kernel, fun hsame => ?_⟩
  have hrates := hsame undecided.pricing undecided.pricing.reverse (List.Perm.refl _)
    (List.reverse_perm _) "gpt-4o"
  have hinput := congrArg (Option.map Rates.input) hrates
  revert hinput
  decide +kernel

end Settings

end Gadfly
