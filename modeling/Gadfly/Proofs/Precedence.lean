/-
  Gadfly.Proofs.Precedence

  Which of several entries counts.

  `candidates` tries a name with a provider and a date in four ways: as it is, without its date,
  without its provider, and without both. One would rather have the provider go before the date
  does (`providerFirst`), since an entry of the same date says more about a model than one of the
  same provider. The two orders try the same names (`candidates_perm`), so they know the same
  models. They differ exactly where a name has an entry without its date and another without its
  provider, with different rates, and none of its own (`Table.Clash`).

  Main definitions: `bareName`, `providerFirst`, `Table.findProviderFirst?`, `Table.Clash`.
  Main statements: `candidates_perm`, `Table.find?_eq_findProviderFirst?_iff`,
  `Table.provider_first_iff_no_clash`.
-/

import Gadfly.Proofs.Candidates

namespace Gadfly

open Text

namespace Price

/-! ## Two orders -/

/-- The `canonical` name of a model, without its provider. -/
def bareName (name : String) : String :=
  String.ofList (afterLast '/' (canonicalChars name.toList))

/-- The names under which a model may be known, in the order in which nothing is dropped at
first, then the provider, and only then the date. -/
def providerFirst (name : String) : List String :=
  canonical name :: bareName name ::
    ((withoutDate? (canonicalChars name.toList)).toList ++
      (withoutDate? (afterLast '/' (canonicalChars name.toList))).toList).map String.ofList

/-- The two orders, `candidates` and `providerFirst`, are orders of the same names. -/
theorem candidates_perm (name : String) : (candidates name).Perm (providerFirst name) := by
  rw [candidates, datedForms, datedForms, List.cons_append, List.map_cons, providerFirst]
  exact List.Perm.cons _ (List.perm_middle.map String.ofList)

/-- It does not matter which of two things is looked for first exactly if they are the same where
both are there. -/
theorem or_or_comm_iff {α : Type} {first second rest : Option α} :
    first.or (second.or rest) = second.or (first.or rest) ↔
      ∀ x, first = some x → ∀ y, second = some y → x = y := by
  cases first <;> cases second <;> simp

theorem findSome?_cons_eq_or {α β : Type} (f : α → Option β) (a : α) (rest : List α) :
    (a :: rest).findSome? f = (f a).or (rest.findSome? f) := by
  rw [List.findSome?_cons]
  cases f a <;> rfl

/-- Behind the last mark of a text there is none. -/
theorem exists_eq_append_of_mark_mem {mark : Char} {text : List Char} (h : mark ∈ text) :
    ∃ front back, text = front ++ mark :: back ∧ mark ∉ back := by
  obtain ⟨back, front, hsplit, hback⟩ := List.eq_append_cons_of_mem (List.mem_reverse.2 h)
  refine ⟨front.reverse, back.reverse, ?_, fun hmem => hback (List.mem_reverse.1 hmem)⟩
  rw [← List.reverse_reverse text, hsplit, List.reverse_append, List.reverse_cons,
    List.append_assoc, List.singleton_append]

namespace Table

variable {table : Table} {name : String} {rates : Rates}

/-- The rates of a model if its provider were dropped before its date (`providerFirst`). -/
def findProviderFirst? (table : Table) (name : String) : Option Rates :=
  (providerFirst name).findSome? table.lookup?

/-- What a table has under a name without its date. -/
def lookupUndated? (table : Table) (name : List Char) : Option Rates :=
  ((withoutDate? name).toList.map String.ofList).findSome? table.lookup?

theorem lookupUndated?_eq_some_iff {name : List Char} :
    table.lookupUndated? name = some rates ↔
      ∃ base, withoutDate? name = some base ∧ table.lookup? (String.ofList base) = some rates := by
  rw [lookupUndated?]
  cases withoutDate? name <;> simp

theorem find?_eq_or (table : Table) (name : String) :
    table.find? name = (table.lookup? (canonical name)).or
      ((table.lookupUndated? (canonicalChars name.toList)).or
        ((table.lookup? (bareName name)).or
          (table.lookupUndated? (afterLast '/' (canonicalChars name.toList))))) := by
  rw [find?, candidates, datedForms, datedForms, List.map_append, List.map_cons, List.map_cons,
    List.findSome?_append, findSome?_cons_eq_or, findSome?_cons_eq_or, Option.or_assoc]
  rfl

theorem findProviderFirst?_eq_or (table : Table) (name : String) :
    table.findProviderFirst? name = (table.lookup? (canonical name)).or
      ((table.lookup? (bareName name)).or
        ((table.lookupUndated? (canonicalChars name.toList)).or
          (table.lookupUndated? (afterLast '/' (canonicalChars name.toList))))) := by
  rw [findProviderFirst?, providerFirst, findSome?_cons_eq_or, findSome?_cons_eq_or,
    List.map_append, List.findSome?_append]
  rfl

/-- Both orders know the same models. -/
theorem isSome_find?_eq (table : Table) (name : String) :
    (table.find? name).isSome = (table.findProviderFirst? name).isSome := by
  rw [find?, findProviderFirst?, List.isSome_findSome?, List.isSome_findSome?]
  exact (candidates_perm name).any_eq

/-- Both orders, `find?` and `findProviderFirst?`, find the same exactly if a name with an entry of
its own, or without two entries that differ, is looked up. -/
theorem find?_eq_findProviderFirst?_iff :
    table.find? name = table.findProviderFirst? name ↔
      (table.lookup? (canonical name) = none →
        ∀ undated, table.lookupUndated? (canonicalChars name.toList) = some undated →
          ∀ bare, table.lookup? (bareName name) = some bare → undated = bare) := by
  rw [find?_eq_or, findProviderFirst?_eq_or]
  cases table.lookup? (canonical name) with
  | none =>
    rw [Option.none_or, Option.none_or, or_or_comm_iff]
    exact ⟨fun h _ => h, fun h => h rfl⟩
  | some own => simp

/-! ## Entries that clash -/

/-- A model has an entry with a provider and another with a date, of different rates, and none
with both. -/
def Clash (table : Table) (provider model date : List Char) : Prop :=
  IsDateSuffix date ∧ '/' ∉ model ∧
    table.lookup? (String.ofList (provider ++ '/' :: (model ++ date))) = none ∧
    ∃ undated bare, table.lookup? (String.ofList (provider ++ '/' :: model)) = some undated ∧
      table.lookup? (String.ofList (model ++ date)) = some bare ∧ undated ≠ bare

variable {provider model date : List Char}

theorem mem_models_of_lookup? (h : table.lookup? name = some rates) : name ∈ table.models := by
  by_contra hunknown
  rw [lookup?_eq_none hunknown] at h
  cases h

/-- A clash shows under the name with provider and date. -/
theorem Clash.find?_ne (h : table.Clash provider model date) (horder : table.InOrder) :
    table.find? (String.ofList (provider ++ '/' :: (model ++ date))) ≠
      table.findProviderFirst? (String.ofList (provider ++ '/' :: (model ++ date))) := by
  obtain ⟨hdate, hslash, hown, undated, bare, hundated, hbare, hdiffer⟩ := h
  have hfront : canonicalChars (provider ++ '/' :: model) = provider ++ '/' :: model := by
    have hcanonical := horder.canonical _ (mem_models_of_lookup? hundated)
    rw [← String.toList_ofList (l := provider ++ '/' :: model)]
    exact canonicalChars_of_canonical hcanonical
  have hfull : canonicalChars (provider ++ '/' :: (model ++ date)) =
      provider ++ '/' :: (model ++ date) := by
    rw [← List.cons_append, ← List.append_assoc, canonicalChars_append_date _ hdate, hfront]
    rw [hfront]
    simp
  have hmark : '/' ∉ model ++ date := by
    rw [List.mem_append, not_or]
    exact ⟨hslash, hdate.mark_not_mem (by decide) (by decide)⟩
  have hwithout : withoutDate? (provider ++ '/' :: (model ++ date)) =
      some (provider ++ '/' :: model) :=
    withoutDate?_eq_some_iff.2 ⟨by simp, date, hdate, by simp⟩
  -- The name with both is looked up: one order finds the undated entry first, the other the bare
  -- one.
  intro hsame
  rw [find?_eq_findProviderFirst?_iff, canonical, bareName, String.toList_ofList, hfull,
    afterLast_append hmark] at hsame
  exact hdiffer (hsame hown undated (lookupUndated?_eq_some_iff.2 ⟨_, hwithout, hundated⟩) bare
    hbare)

/-- Where the orders differ there is a clash. -/
theorem exists_clash_of_find?_ne (h : table.find? name ≠ table.findProviderFirst? name) :
    ∃ provider model date, table.Clash provider model date := by
  rw [Ne, find?_eq_findProviderFirst?_iff] at h
  push Not at h
  obtain ⟨hown, undated, hundated, bare, hbare, hdiffer⟩ := h
  obtain ⟨base, hwithout, hbase⟩ := lookupUndated?_eq_some_iff.1 hundated
  obtain ⟨-, date, hdate, hfull⟩ := withoutDate?_eq_some_iff.1 hwithout
  rw [canonical, hfull] at hown
  rw [bareName, hfull] at hbare
  have hnoMark : '/' ∉ date := hdate.mark_not_mem (by decide) (by decide)
  by_cases hmark : '/' ∈ base
  · -- The provider ends at the last slash, which is not in the date.
    obtain ⟨provider, model, rfl, hmodel⟩ := exists_eq_append_of_mark_mem hmark
    have hmodelDate : '/' ∉ model ++ date := by
      rw [List.mem_append, not_or]
      exact ⟨hmodel, hnoMark⟩
    rw [List.append_assoc, List.cons_append] at hown hbare
    rw [afterLast_append hmodelDate] at hbare
    exact ⟨provider, model, date, hdate, hmodel, hown, undated, bare, hbase, hbare, hdiffer⟩
  · -- Without a slash nothing is dropped with the provider.
    have hnone : '/' ∉ base ++ date := by
      rw [List.mem_append, not_or]
      exact ⟨hmark, hnoMark⟩
    rw [afterLast_of_not_mem hnone, hown] at hbare
    cases hbare

theorem Built.inOrder {added : List (String × Rates)} (h : table.Built added) : table.InOrder := by
  obtain ⟨start, horder, rfl⟩ := h.exists_eq_setAll
  exact horder.setAll added

/-- The orders of `find?` and of `findProviderFirst?` know the same models. Without the provider a
name without an entry of its own has the rates that count, unless it has others without the date;
and all names of a table that was built are looked up with the provider dropped first, exactly if no
two entries `Clash`. -/
theorem provider_first_iff_no_clash (table : Table) :
    (∀ name, (table.find? name).isSome = (table.findProviderFirst? name).isSome) ∧
    (∀ (name : String) (rates : Rates), table.lookup? (canonical name) = none →
      table.lookup? (bareName name) = some rates →
        (table.find? name = some rates ↔
          ∀ base, withoutDate? (canonicalChars name.toList) = some base →
            ∀ undated, table.lookup? (String.ofList base) = some undated → undated = rates)) ∧
    ∀ added : List (String × Rates), table.Built added →
      ((∀ name, table.find? name = table.findProviderFirst? name) ↔
        ∀ provider model date, ¬table.Clash provider model date) := by
  refine ⟨isSome_find?_eq table, fun name rates hown hbare => ?_, fun added hbuilt => ?_⟩
  · have hfirst : table.findProviderFirst? name = some rates := by
      rw [findProviderFirst?_eq_or, hown, hbare]
      rfl
    rw [← hfirst, find?_eq_findProviderFirst?_iff]
    simp only [lookupUndated?_eq_some_iff]
    constructor
    · intro hsame base hbase undated hundated
      exact hsame hown undated ⟨base, hbase, hundated⟩ rates hbare
    · rintro hsame - undated ⟨base, hbase, hundated⟩ bare hbare'
      obtain rfl : rates = bare := Option.some.inj (hbare.symm.trans hbare')
      exact hsame base hbase undated hundated
  · constructor
    · intro hsame provider model date hclash
      exact hclash.find?_ne hbuilt.inOrder (hsame _)
    · intro hclashless name
      by_contra hdiffer
      obtain ⟨provider, model, date, hclash⟩ := exists_clash_of_find?_ne hdiffer
      exact hclashless provider model date hclash

/-- A model of one provider, and one snapshot of it of any provider. -/
def snapshots : Table :=
  Table.empty.setAll [("openai/gpt-4o", ⟨1.0, 2.0⟩), ("gpt-4o-2024-08-06", ⟨3.0, 4.0⟩)]

theorem snapshot_hidden_by_provider :
    ¬∀ (name : String) (rates : Rates), snapshots.lookup? (canonical name) = none →
      snapshots.lookup? (bareName name) = some rates → snapshots.find? name = some rates := by
  intro hall
  have hrates := hall "openai/gpt-4o-2024-08-06" ⟨3.0, 4.0⟩ rfl rfl
  have hinput := congrArg (Option.map Rates.input) hrates
  revert hinput
  decide +kernel

/-- The snapshot counts for a provider without an entry, and no two of the names known from the
start clash, as none of them has a provider. -/
theorem snapshot_found_of_other_provider :
    snapshots.find? "Azure/GPT-4o-2024-08-06" = some ⟨3.0, 4.0⟩ ∧
      ∀ name, builtIn.find? name = builtIn.findProviderFirst? name := by
  constructor
  · have hfound := (provider_first_iff_no_clash snapshots).2.1 "Azure/GPT-4o-2024-08-06"
      ⟨3.0, 4.0⟩ rfl rfl
    apply hfound.2
    intro base hbase undated hundated
    have hazure : "azure/gpt-4o".toList = base :=
      Option.some.inj (Eq.trans (by decide +kernel) hbase)
    rw [← hazure] at hundated
    have hunknown : snapshots.lookup? "azure/gpt-4o" = none := rfl
    rw [String.ofList_toList, hunknown] at hundated
    cases hundated
  · refine ((provider_first_iff_no_clash builtIn).2.2 [] Built.builtIn).2 ?_
    rintro provider model date ⟨-, -, -, undated, -, hundated, -⟩
    have hnoSlash := (bare_builtIn _ (mem_models_of_lookup? hundated)).1
    simp at hnoSlash

end Table

end Price

end Gadfly
