/-
  Gadfly.Proofs.Candidates

  Names with a provider and a date.

  A provider in front of a name is lowered together with it, but the slash between them is no
  joint, so that the canonical name goes on behind the slash as if nothing stood before it
  (`canonicalChars_provider`). A date at the end is left as it is (`canonicalChars_append_date`).
  Whatever a name with either of them is looked up under, it is the name itself, or it has a slash
  or is `Dated`. A table that has no such names (`Table.Bare`) finds all these variants of a name
  under the name.

  Main definitions: `IsDateSuffix`, `Dated`, `IsVariant`, `Denotes`, `Table.Bare`.
  Main statements: `isDate_iff`, `withoutDate?_eq_some_iff`, `canonicalChars_provider`,
  `canonicalChars_append_date`, `Table.find?_eq_lookup?`, `Table.find?_variants`.
-/

import Gadfly.Proofs.Digits
import Gadfly.Proofs.PriceTable
import Gadfly.Proofs.Spelling

namespace Gadfly

open Text

namespace Price

variable {name base date text front part shape : List Char} {c : Char}

/-! ## Dates -/

/-- A hyphen and a date: a year, a month and a day in digits, with hyphens between them. -/
def IsDateSuffix (text : List Char) : Prop :=
  ∃ year month day : List Char, text = '-' :: (year ++ '-' :: (month ++ '-' :: day)) ∧
    year.length = 4 ∧ month.length = 2 ∧ day.length = 2 ∧
    ∀ c ∈ year ++ month ++ day, c.isDigit = true

/-- A name that ends in a date (`IsDateSuffix`). -/
def Dated (name : List Char) : Prop :=
  ∃ base date, IsDateSuffix date ∧ name = base ++ date

/-- A character is as a shape has it: a hyphen where there is one, and else a digit. -/
def Fits (c shape : Char) : Prop :=
  if shape = '-' then c = '-' else c.isDigit = true

theorem forall₂_fits_hyphen :
    List.Forall₂ Fits text ('-' :: shape) ↔
      ∃ rest, text = '-' :: rest ∧ List.Forall₂ Fits rest shape := by
  rw [List.forall₂_cons_right_iff]
  constructor
  · rintro ⟨c, rest, hc, hrest, rfl⟩
    rw [Fits, if_pos rfl] at hc
    exact ⟨rest, hc ▸ rfl, hrest⟩
  · rintro ⟨rest, rfl, hrest⟩
    have hhyphen : Fits '-' '-' := by rw [Fits, if_pos rfl]
    exact ⟨'-', rest, hhyphen, hrest, rfl⟩

theorem forall₂_fits_digits (n : Nat) :
    List.Forall₂ Fits text (List.replicate n '0' ++ shape) ↔
      ∃ digits rest, text = digits ++ rest ∧ digits.length = n ∧
        (∀ c ∈ digits, c.isDigit = true) ∧ List.Forall₂ Fits rest shape := by
  have hzero (c : Char) : Fits c '0' ↔ c.isDigit = true := by
    rw [Fits, if_neg (by decide)]
  induction n generalizing text with
  | zero =>
    constructor
    · intro h
      exact ⟨[], text, rfl, rfl, nofun, h⟩
    · rintro ⟨digits, rest, rfl, hlength, -, hrest⟩
      rw [List.length_eq_zero_iff.1 hlength]
      exact hrest
  | succ n ih =>
    rw [List.replicate_succ, List.cons_append, List.forall₂_cons_right_iff]
    constructor
    · rintro ⟨c, more, hc, hmore, rfl⟩
      obtain ⟨digits, rest, rfl, rfl, hdigits, hrest⟩ := ih.1 hmore
      exact ⟨c :: digits, rest, rfl, rfl, List.forall_mem_cons.2 ⟨(hzero c).1 hc, hdigits⟩, hrest⟩
    · rintro ⟨_ | ⟨c, digits⟩, rest, rfl, hlength, hdigits, hrest⟩
      · cases hlength
      · obtain ⟨hc, hdigits⟩ := List.forall_mem_cons.1 hdigits
        exact ⟨c, digits ++ rest, (hzero c).2 hc,
          ih.2 ⟨digits, rest, rfl, Nat.succ.inj hlength, hdigits, hrest⟩, rfl⟩

theorem isDate_iff_forall₂ : isDate text = true ↔ List.Forall₂ Fits text dateShape := by
  rw [isDate, List.forall₂_iff_zip, Bool.and_eq_true, beq_iff_eq, List.all_eq_true]
  have hfits (c shape : Char) :
      (if shape = '-' then c == '-' else c.isDigit) = true ↔ Fits c shape := by
    rw [Fits]
    split
    · exact beq_iff_eq
    · exact Iff.rfl
  constructor
  · rintro ⟨hlength, h⟩
    exact ⟨hlength, fun hmem => (hfits _ _).1 (h _ hmem)⟩
  · rintro ⟨hlength, h⟩
    exact ⟨hlength, fun pair hmem => (hfits _ _).2 (h hmem)⟩

/-- The test `isDate` looks for just an `IsDateSuffix`. -/
theorem isDate_iff : isDate text = true ↔ IsDateSuffix text := by
  have hshape : dateShape = '-' :: (List.replicate 4 '0' ++ '-' :: (List.replicate 2 '0' ++
      '-' :: (List.replicate 2 '0' ++ []))) := by decide
  -- The shape is taken apart at its hyphens, into runs of four, two and two digits.
  rw [isDate_iff_forall₂, hshape]
  simp only [forall₂_fits_hyphen, forall₂_fits_digits, List.forall₂_nil_right_iff]
  constructor
  · rintro ⟨_, rfl, year, _, rfl, hyear, hyears, _, rfl, month, _, rfl, hmonth, hmonths, _, rfl,
      day, _, rfl, hday, hdays, rfl⟩
    refine ⟨year, month, day, by simp, hyear, hmonth, hday, ?_⟩
    exact List.forall_mem_append.2 ⟨List.forall_mem_append.2 ⟨hyears, hmonths⟩, hdays⟩
  · rintro ⟨year, month, day, rfl, hyear, hmonth, hday, hall⟩
    obtain ⟨hboth, hdays⟩ := List.forall_mem_append.1 hall
    obtain ⟨hyears, hmonths⟩ := List.forall_mem_append.1 hboth
    exact ⟨_, rfl, year, _, rfl, hyear, hyears, _, rfl, month, _, rfl, hmonth, hmonths, _, rfl,
      day, [], (List.append_nil day).symm, hday, hdays, rfl⟩

theorem IsDateSuffix.length_eq (h : IsDateSuffix date) : date.length = dateShape.length := by
  have hdate := isDate_iff.2 h
  rw [isDate, Bool.and_eq_true, beq_iff_eq] at hdate
  exact hdate.1

/-- Where a date is cut off at the end of a text, all that stands before it is left. -/
theorem IsDateSuffix.length_before (h : IsDateSuffix date) (base : List Char) :
    (base ++ date).length - dateShape.length = base.length := by
  rw [List.length_append, h.length_eq]
  omega

/-- A date is taken off by `withoutDate?` exactly where there is one, with something before it. -/
theorem withoutDate?_eq_some_iff :
    withoutDate? name = some base ↔
      base ≠ [] ∧ ∃ date, IsDateSuffix date ∧ name = base ++ date := by
  have hsize : 0 < dateShape.length := by decide
  simp only [withoutDate?, Option.ite_none_right_eq_some, Option.some.injEq, isDate_iff]
  constructor
  · rintro ⟨⟨hpos, hdate⟩, rfl⟩
    refine ⟨?_, _, hdate, (List.take_append_drop _ _).symm⟩
    apply List.ne_nil_of_length_pos
    rw [List.length_take]
    omega
  · rintro ⟨hbase, date, hdate, rfl⟩
    rw [hdate.length_before, List.drop_left, List.take_left]
    exact ⟨⟨List.length_pos_iff.2 hbase, hdate⟩, rfl⟩

/-- Whether a name ends in a date can be seen from its end. -/
theorem dated_iff : Dated name ↔ IsDateSuffix (name.drop (name.length - dateShape.length)) := by
  constructor
  · rintro ⟨base, date, hdate, rfl⟩
    rw [hdate.length_before, List.drop_left]
    exact hdate
  · intro hdate
    exact ⟨_, _, hdate, (List.take_append_drop _ _).symm⟩

instance (name : List Char) : Decidable (Dated name) :=
  decidable_of_iff _ (isDate_iff.trans dated_iff.symm)

theorem IsDateSuffix.mark_not_mem (h : IsDateSuffix date) (hdigit : c.isDigit = false)
    (hhyphen : c ≠ '-') : c ∉ date := by
  obtain ⟨year, month, day, rfl, -, -, -, hall⟩ := h
  have hnot : c ∉ year ++ month ++ day := by
    intro hmem
    have := hall c hmem
    simp [hdigit] at this
  simp only [List.mem_append, List.mem_cons, not_or] at hnot ⊢
  exact ⟨hhyphen, hnot.1.1, hhyphen, hnot.1.2, hhyphen, hnot.2⟩

/-! ## Canonical names with a provider or a date -/

theorem isJoint_of_isDigit (h : c.isDigit = true) : isJoint c = false := by
  have hne (other : Char) (hother : other.isDigit = false) : c ≠ other := by
    rintro rfl
    rw [h] at hother
    cases hother
  exact isJoint_eq_false_iff.2
    ⟨Decimal.isBlank_of_isDigit h, hne '_' (by decide), hne '-' (by decide)⟩

theorem lowerChar_of_isDigit (h : c.isDigit = true) : lowerChar c = [c] := by
  have hrange := Decimal.isDigit_iff.1 h
  exact lowerChar_of_not_capital (by omega) (by omega)

theorem parts_of_digits (hpart : ∀ c ∈ part, c.isDigit = true) (hne : part ≠ []) :
    parts part = [part] :=
  parts_of_unjointed (fun c hc => isJoint_of_isDigit (hpart c hc)) hne

theorem lowered_digits (hpart : ∀ c ∈ part, c.isDigit = true) : part.flatMap lowerChar = part := by
  rw [List.flatMap_congr fun c hc => lowerChar_of_isDigit (hpart c hc), List.flatMap_singleton']

/-- A date has three parts, which are their own lower case. -/
theorem IsDateSuffix.parts_eq (h : IsDateSuffix date) :
    ∃ year month day : List Char, date = '-' :: (year ++ '-' :: (month ++ '-' :: day)) ∧
      parts date = [year, month, day] ∧
      ∀ part ∈ parts date, part.flatMap lowerChar = part := by
  obtain ⟨year, month, day, rfl, hyear, hmonth, hday, hall⟩ := h
  obtain ⟨hboth, hdays⟩ := List.forall_mem_append.1 hall
  obtain ⟨hyears, hmonths⟩ := List.forall_mem_append.1 hboth
  have hyearNe : year ≠ [] := List.ne_nil_of_length_pos (by omega)
  have hmonthNe : month ≠ [] := List.ne_nil_of_length_pos (by omega)
  have hdayNe : day ≠ [] := List.ne_nil_of_length_pos (by omega)
  have hjoint : isJoint '-' = true := by decide
  have hparts : parts ('-' :: (year ++ '-' :: (month ++ '-' :: day))) = [year, month, day] := by
    rw [← List.nil_append ('-' :: _), parts_append_joint hjoint, parts_append_joint hjoint,
      parts_append_joint hjoint, parts_of_digits hyears hyearNe, parts_of_digits hmonths hmonthNe,
      parts_of_digits hdays hdayNe]
    rfl
  refine ⟨year, month, day, rfl, hparts, ?_⟩
  rw [hparts, List.forall_mem_cons, List.forall_mem_cons, List.forall_mem_singleton]
  exact ⟨lowered_digits hyears, lowered_digits hmonths, lowered_digits hdays⟩

/-- A date is written in one way only. -/
theorem IsDateSuffix.canonicalChars_eq (h : IsDateSuffix date) :
    '-' :: canonicalChars date = date := by
  obtain ⟨year, month, day, hdate, hparts, hlowered⟩ := h.parts_eq
  rw [canonicalChars, List.map_congr_left hlowered, List.map_id', hparts, hdate,
    List.intercalate_cons_cons, List.intercalate_cons_cons, List.intercalate_singleton]
  simp only [List.append_assoc, List.singleton_append]

/-- A date stays at the end of a name when `canonicalChars` writes it. -/
theorem canonicalChars_append_date (hname : canonicalChars name ≠ []) (hdate : IsDateSuffix date) :
    canonicalChars (name ++ date) = canonicalChars name ++ date := by
  obtain ⟨year, month, day, hsplit, hparts, -⟩ := hdate.parts_eq
  have hhead : ∀ c ∈ date.head?, isJoint c = true := by
    rw [hsplit]
    intro c hc
    obtain rfl : '-' = c := Option.some.inj hc
    decide
  have hdateParts : parts date ≠ [] := by
    rw [hparts]
    exact List.cons_ne_nil _ _
  have hnameParts : parts name ≠ [] := fun hnil => hname (canonicalChars_of_parts_eq_nil hnil)
  rw [canonicalChars_append_of_joint (.inr hhead) hnameParts hdateParts, hdate.canonicalChars_eq]

/-- Behind a slash, a name goes on as if nothing stood before it. -/
theorem canonicalChars_provider (provider : List Char) (hname : canonicalChars name = name)
    (hne : name ≠ []) :
    ∃ front, canonicalChars (provider ++ '/' :: name) = front ++ '/' :: name := by
  have hplain : Plain name := hname ▸ plain_canonicalChars name
  have hhead : ∃ c ∈ name.head?, isJoint c = false := by
    obtain ⟨c, rest, rfl⟩ := List.exists_cons_of_ne_nil hne
    refine ⟨c, rfl, isJoint_eq_false_iff.2 ⟨hplain.no_blank c List.mem_cons_self, ?_, ?_⟩⟩
    · rintro rfl
      exact hplain.no_underscore List.mem_cons_self
    · rintro rfl
      exact hplain.no_front rfl
  have hslash : isJoint '/' = false := by decide
  have hlower : lowerChar '/' = ['/'] := by decide +kernel
  -- Whatever the provider is, the pass over it is in a state to write the slash.
  obtain ⟨hfront, -⟩ := (swept_foldl provider).canonicalChars_concat hslash
  refine ⟨provider.foldl sweepStep [], ?_⟩
  rw [← List.singleton_append, ← List.append_assoc,
    canonicalChars_append ⟨'/', by simp, hslash⟩ hhead, hfront, hlower, hname, List.append_assoc]

/-! ## Candidates -/

theorem afterLast_of_not_mem {mark : Char} (h : mark ∉ text) : afterLast mark text = text := by
  rw [afterLast, List.takeWhile_eq_self_iff.2, List.reverse_reverse]
  intro c hc
  rw [bne_iff_ne]
  rintro rfl
  exact h (List.mem_reverse.1 hc)

theorem afterLast_append {mark : Char} (h : mark ∉ text) :
    afterLast mark (front ++ mark :: text) = text := by
  have hkept : ∀ c ∈ text.reverse, (c != mark) = true := by
    intro c hc
    rw [bne_iff_ne]
    rintro rfl
    exact h (List.mem_reverse.1 hc)
  rw [afterLast, List.reverse_append, List.reverse_cons, List.append_assoc,
    List.takeWhile_append_of_pos hkept, List.singleton_append,
    List.takeWhile_cons_of_neg (by simp), List.append_nil, List.reverse_reverse]

theorem mem_datedForms : base ∈ datedForms name ↔
    base = name ∨ base ≠ [] ∧ ∃ date, IsDateSuffix date ∧ name = base ++ date := by
  rw [datedForms, List.mem_cons, Option.mem_toList, withoutDate?_eq_some_iff]

/-- The name itself, or the name with a date. -/
def IsVariant (model text : List Char) : Prop :=
  text = model ∨ ∃ date, IsDateSuffix date ∧ text = model ++ date

variable {model : List Char}

theorem IsVariant.mem_datedForms (h : IsVariant model text) (hne : model ≠ []) :
    model ∈ datedForms text := by
  rw [Price.mem_datedForms]
  rcases h with rfl | hdated
  · exact .inl rfl
  · exact .inr ⟨hne, hdated⟩

/-- A variant is tried as the name, and else only as something that ends in a date. -/
theorem IsVariant.of_mem_datedForms (h : IsVariant model text) (hundated : ¬Dated model)
    (hbase : base ∈ datedForms text) : base = model ∨ Dated base := by
  obtain rfl | ⟨-, date, hdate, hsplit⟩ := Price.mem_datedForms.1 hbase
  · exact h.imp id fun ⟨date, hdate, hsplit⟩ => ⟨model, date, hdate, hsplit⟩
  · rcases h with rfl | ⟨other, hother, rfl⟩
    · exact absurd ⟨base, date, hdate, hsplit⟩ hundated
    · have hlength : other.length = date.length := hother.length_eq.trans hdate.length_eq.symm
      exact .inl (List.append_inj_left' hsplit hlength).symm

/-- A slash is not lost with a date. -/
theorem slash_mem_of_mem_datedForms (hslash : '/' ∈ name) (hbase : base ∈ datedForms name) :
    '/' ∈ base := by
  obtain rfl | ⟨-, date, hdate, rfl⟩ := mem_datedForms.1 hbase
  · exact hslash
  · have hnot : '/' ∉ date := hdate.mark_not_mem (by decide) (by decide)
    exact (List.mem_append.1 hslash).resolve_right hnot

/-- A canonical name that is a variant of a model (`IsVariant`), or a provider with a slash and a
variant. -/
def Denotes (model name : List Char) : Prop :=
  ∃ text, IsVariant model text ∧ (name = text ∨ ∃ front, name = front ++ '/' :: text)

/-- Behind the last slash, if there is one, stands the variant. -/
theorem Denotes.isVariant_afterLast (h : Denotes model name) (hslash : '/' ∉ model) :
    IsVariant model (afterLast '/' name) ∧ ('/' ∈ name ∨ IsVariant model name) := by
  obtain ⟨text, htext, hname⟩ := h
  have hnot : '/' ∉ text := by
    rcases htext with rfl | ⟨date, hdate, rfl⟩
    · exact hslash
    · rw [List.mem_append, not_or]
      exact ⟨hslash, hdate.mark_not_mem (by decide) (by decide)⟩
  rcases hname with rfl | ⟨front, rfl⟩
  · rw [afterLast_of_not_mem hnot]
    exact ⟨htext, .inr htext⟩
  · rw [afterLast_append hnot]
    exact ⟨htext, .inl (by simp)⟩

variable {query candidate : String}

theorem Denotes.mem_candidates (h : Denotes model (canonicalChars query.toList))
    (hslash : '/' ∉ model) (hne : model ≠ []) : String.ofList model ∈ candidates query := by
  obtain ⟨hlast, -⟩ := h.isVariant_afterLast hslash
  rw [candidates]
  exact List.mem_map_of_mem (List.mem_append_right _ (hlast.mem_datedForms hne))

/-- All other names that are tried have a slash or end in a date. -/
theorem Denotes.of_mem_candidates (h : Denotes model (canonicalChars query.toList))
    (hslash : '/' ∉ model) (hundated : ¬Dated model) (hcandidate : candidate ∈ candidates query) :
    candidate = String.ofList model ∨ '/' ∈ candidate.toList ∨ Dated candidate.toList := by
  obtain ⟨hlast, hfull⟩ := h.isVariant_afterLast hslash
  obtain ⟨base, hbase, rfl⟩ := List.mem_map.1 hcandidate
  rw [String.toList_ofList]
  have hvariant {text : List Char} (htext : IsVariant model text) (hmem : base ∈ datedForms text) :
      String.ofList base = String.ofList model ∨ '/' ∈ base ∨ Dated base :=
    (htext.of_mem_datedForms hundated hmem).imp (congrArg String.ofList) .inr
  rcases List.mem_append.1 hbase with hmem | hmem
  · rcases hfull with hmark | hfull
    · exact .inr (.inl (slash_mem_of_mem_datedForms hmark hmem))
    · exact hvariant hfull hmem
  · exact hvariant hlast hmem

namespace Table

variable {table : Table}

/-- No name in the table has a slash or is `Dated`. -/
def Bare (table : Table) : Prop :=
  ∀ name ∈ table.models, '/' ∉ name.toList ∧ ¬Dated name.toList

instance (table : Table) : Decidable table.Bare :=
  inferInstanceAs (Decidable (∀ name ∈ table.models, _))

theorem bare_builtIn : builtIn.Bare := by
  decide +kernel

theorem lookup?_eq_none {name : String} (h : name ∉ table.models) : table.lookup? name = none := by
  rw [lookup?, Option.map_eq_none_iff, List.find?_eq_none]
  intro entry hentry hname
  exact h (List.mem_map.2 ⟨entry, hentry, beq_iff_eq.1 hname⟩)

/-- What is found under several names is what is found under the only one that is known. -/
theorem findSome?_eq_of_only {look : String → Option Rates} {names : List String} {only : String}
    (honly : only ∈ names) (hothers : ∀ name ∈ names, name ≠ only → look name = none) :
    names.findSome? look = look only := by
  cases hfound : names.findSome? look with
  | none => exact (List.findSome?_eq_none_iff.1 hfound only honly).symm
  | some rates =>
    obtain ⟨name, hname, hlook⟩ := List.exists_of_findSome?_eq_some hfound
    have hsame : name = only := by
      by_contra hother
      rw [hothers name hname hother] at hlook
      cases hlook
    rw [← hsame, hlook]

/-- In a `Bare` table a query that `Denotes` a model is looked up under the name of the model. -/
theorem find?_eq_lookup? (htable : table.Bare) (hslash : '/' ∉ model) (hundated : ¬Dated model)
    (hne : model ≠ []) (hquery : Denotes model (canonicalChars query.toList)) :
    table.find? query = table.lookup? (String.ofList model) := by
  rw [find?]
  apply findSome?_eq_of_only (hquery.mem_candidates hslash hne)
  intro candidate hcandidate hother
  apply lookup?_eq_none
  intro hknown
  obtain ⟨hnoSlash, hnoDate⟩ := htable candidate hknown
  rcases hquery.of_mem_candidates hslash hundated hcandidate with hsame | hmark | hdated
  · exact hother hsame
  · exact hnoSlash hmark
  · exact hnoDate hdated

theorem canonicalChars_of_canonical {name : String} (h : canonical name = name) :
    canonicalChars name.toList = name.toList := by
  rw [← String.toList_ofList (l := canonicalChars name.toList)]
  exact congrArg String.toList h

/-- In a `Bare` table, as the `builtIn` one is, a provider in front of a model and a date behind it
make no difference to what `find?` finds. -/
theorem find?_variants : builtIn.Bare ∧ ∀ table : Table, table.Bare →
    ∀ name : String, canonical name = name → name ≠ "" → '/' ∉ name.toList →
      ¬Dated name.toList → ∀ provider date : String, IsDateSuffix date.toList →
        table.find? (provider ++ "/" ++ name) = table.find? name ∧
          table.find? (name ++ date) = table.find? name ∧
          table.find? (provider ++ "/" ++ name ++ date) = table.find? name := by
  refine ⟨bare_builtIn, fun table htable name hname hne hslash hundated provider date hdate => ?_⟩
  have hchars := canonicalChars_of_canonical hname
  have hcharsNe : name.toList ≠ [] := fun hnil => hne (String.toList_eq_nil_iff.1 hnil)
  have hdated : canonicalChars (name.toList ++ date.toList) = name.toList ++ date.toList := by
    rw [canonicalChars_append_date (hchars.symm ▸ hcharsNe) hdate, hchars]
  have hvariant : IsVariant name.toList (name.toList ++ date.toList) :=
    .inr ⟨date.toList, hdate, rfl⟩
  -- All three queries denote the model, and are looked up under its name.
  have hfind {query : String} {text : List Char} (htext : IsVariant name.toList text)
      (hquery : canonicalChars query.toList = text ∨
        ∃ front, canonicalChars query.toList = front ++ '/' :: text) :=
    find?_eq_lookup? htable hslash hundated hcharsNe ⟨text, htext, hquery⟩
  have hprovided (text : List Char) (hcanonical : canonicalChars text = text) (htext : text ≠ []) :
      ∃ front, canonicalChars (provider.toList ++ '/' :: text) = front ++ '/' :: text :=
    canonicalChars_provider provider.toList hcanonical htext
  rw [hfind (.inl rfl) (.inl hchars)]
  refine ⟨hfind (.inl rfl) (.inr ?_), hfind hvariant (.inl ?_), hfind hvariant (.inr ?_)⟩
  · simpa using hprovided _ hchars hcharsNe
  · rw [String.toList_append, hdated]
  · simpa using hprovided _ hdated (List.append_ne_nil_of_left_ne_nil hcharsNe _)

/-- The provider is written in a way of its own, and would not be canonical by itself. -/
theorem find?_variants_of_builtIn :
    builtIn.find? " Open__AI/gpt-4o-2024-08-06" = builtIn.find? "gpt-4o" ∧
      (builtIn.find? "gpt-4o").isSome = true := by
  have hname : canonical "gpt-4o" = "gpt-4o" := by decide +kernel
  have hundated : ¬Dated "gpt-4o".toList := by decide +kernel
  have hdate : IsDateSuffix "-2024-08-06".toList := isDate_iff.1 (by decide)
  have hsame := find?_variants.2 builtIn bare_builtIn "gpt-4o" hname (by decide) (by decide)
    hundated " Open__AI" "-2024-08-06" hdate
  exact ⟨hsame.2.2, by decide +kernel⟩

end Table

end Price

end Gadfly
