/-
  Gadfly.Proofs.Invocation

  What is a command.

  A command (`Command.Calls`) is the mark, the name of the command in any case, and then nothing
  or a blank and more. `Command.parse?` cuts the name off at the first blank behind the mark, so a
  text can be read as a command in one way only (`Command.Split`), also where the mark has blanks
  of its own. No characters but its own letters are lowered to a name of a command. Whatever is
  quoted for a model starts with its canonical name, in which there are no blanks, and so is not
  mistaken for the regret that nothing is known (`priceReply_eq_regret_iff`).

  Main definitions: `Command.Split`, `Command.Calls`.
  Main statements: `Command.parse?_eq_some_iff`, `Command.reply?_isSome_iff`,
  `Command.priceReply_eq_regret_iff`, `Command.answers_calls_only`.
-/

import Gadfly.Proofs.Spelling
import Gadfly.Stage

namespace Gadfly

open Text
open Price (SameLetters canonical canonicalChars Table Rates)

/-! ## Cutting at the first character of a class -/

namespace Text

variable {p : Char → Bool} {text front back : List Char} {c : Char}

theorem splitAtFirst_of_forall (h : ∀ c ∈ text, p c = false) : splitAtFirst p text = none := by
  induction text with
  | nil => rfl
  | cons d rest ih =>
    rw [List.forall_mem_cons] at h
    rw [splitAtFirst, if_neg (ne_true_of_eq_false h.1), ih h.2]
    rfl

theorem splitAtFirst_append_cons (h : ∀ c ∈ front, p c = false) (hc : p c = true) :
    splitAtFirst p (front ++ c :: back) = some (front, back) := by
  induction front with
  | nil => rw [List.nil_append, splitAtFirst, if_pos hc]
  | cons d rest ih =>
    rw [List.forall_mem_cons] at h
    rw [List.cons_append, splitAtFirst, if_neg (ne_true_of_eq_false h.1), ih h.2]
    rfl

/-- Every text goes on without a class of characters, up to where one of them stands or it
ends. -/
theorem exists_eq_append_of_class (p : Char → Bool) (text : List Char) :
    ∃ front rest, text = front ++ rest ∧ (∀ c ∈ front, p c = false) ∧
      ∀ c ∈ rest.head?, p c = true := by
  refine ⟨text.takeWhile (!p ·), text.dropWhile (!p ·), List.takeWhile_append_dropWhile.symm,
    fun c hc => ?_, fun c hc => ?_⟩
  · have hclass := List.mem_takeWhile_imp hc
    rwa [Bool.not_eq_true'] at hclass
  · have hclass := List.head?_dropWhile_not (!p ·) text
    rw [hc] at hclass
    simpa using hclass

end Text

namespace Command

variable {mark content name : String} {word rest : List Char} {table : Table}

/-! ## Reading -/

/-- A text is the mark, a word without blanks, and then nothing or a blank and more. -/
structure Split (mark content : String) (word rest : List Char) : Prop where
  marked : mark ≠ ""
  trimmed : trim content.toList = mark.toList ++ (word ++ rest)
  word : ∀ c ∈ word, isBlank c = false
  rest : ∀ c ∈ rest.head?, isBlank c = true

theorem split_iff_checked : Split mark content word rest ↔
    mark ≠ "" ∧ trim content.toList = mark.toList ++ (word ++ rest) ∧
      word.all (!isBlank ·) = true ∧ rest.head?.all isBlank = true := by
  simp only [List.all_eq_true, Option.all_eq_true, Bool.not_eq_true']
  exact ⟨fun h => ⟨h.marked, h.trimmed, h.word, h.rest⟩,
    fun ⟨hmarked, htrimmed, hword, hrest⟩ => ⟨hmarked, htrimmed, hword, hrest⟩⟩

instance : Decidable (Split mark content word rest) :=
  decidable_of_iff' _ split_iff_checked

theorem Split.parse?_eq (h : Split mark content word rest) :
    parse? mark content = some ⟨String.ofList word, String.ofList (trim rest)⟩ := by
  have hlead := stripLead_eq_some_iff.2 h.trimmed
  rw [parse?, if_neg h.marked, hlead]
  have hrest := h.rest
  cases rest with
  | nil =>
    rw [List.append_nil, Option.bind_eq_bind, Option.bind_some, splitAtFirst_of_forall h.word]
    rfl
  | cons c back =>
    have hblank : ∀ d ∈ [c], isBlank d = true := by simpa using hrest
    have htrim : trim (c :: back) = trim back := by
      have hnone : ∀ d ∈ ([] : List Char), isBlank d = true := nofun
      have htrim := trim_append_blanks hblank hnone back
      rwa [List.append_nil, List.singleton_append] at htrim
    rw [Option.bind_eq_bind, Option.bind_some, splitAtFirst_append_cons h.word (hrest c rfl), htrim]
    rfl

/-- Just the texts that can be `Split` are read by `parse?`, and in this way only. -/
theorem parse?_eq_some_iff {invocation : Invocation} :
    parse? mark content = some invocation ↔
      ∃ word rest, Split mark content word rest ∧
        invocation = ⟨String.ofList word, String.ofList (trim rest)⟩ := by
  constructor
  · intro hparse
    have hmark : mark ≠ "" := by
      rintro rfl
      cases hparse
    have hread := hparse
    rw [parse?, if_neg hmark] at hread
    obtain ⟨body, hlead, -⟩ := Option.bind_eq_some_iff.1 hread
    obtain ⟨word, rest, rfl, hword, hrest⟩ := exists_eq_append_of_class isBlank body
    have hsplit : Split mark content word rest :=
      ⟨hmark, stripLead_eq_some_iff.1 hlead, hword, hrest⟩
    rw [hsplit.parse?_eq] at hparse
    exact ⟨word, rest, hsplit, (Option.some.inj hparse).symm⟩
  · rintro ⟨word, rest, hsplit, rfl⟩
    exact hsplit.parse?_eq

/-! ## Calling -/

/-- A text calls a command of a name: behind the mark there is the name, with capitals and small
letters of ASCII as one likes. -/
def Calls (mark content name : String) (rest : List Char) : Prop :=
  ∃ word, Split mark content word rest ∧ SameLetters word name.toList

/-- The names of the commands. -/
def names : List String :=
  ["ping", "price"]

theorem lowered_eq_iff_of_mem_names (h : name ∈ names) :
    (String.ofList word).lowered = name ↔ SameLetters word name.toList := by
  have hnames : ∀ name ∈ names,
      name.toList.all (inSpans ownSmallLetters ·.toNat) = true ∧
        name.toList.map Char.toLower = name.toList := by
    decide
  rw [SameLetters, (hnames name h).2, ← lower_eq_iff (List.all_eq_true.1 (hnames name h).1),
    String.lowered, String.toList_ofList]
  exact ⟨fun hlowered => hlowered ▸ String.toList_ofList.symm, fun hlower => by
    rw [hlower, String.ofList_toList]⟩

theorem Calls.reply?_ping (h : Calls mark content "ping" rest) :
    reply? mark table content = some "pong" := by
  obtain ⟨word, hsplit, hletters⟩ := h
  have hname : (String.ofList word).lowered = "ping" :=
    (lowered_eq_iff_of_mem_names (by decide)).2 hletters
  rw [reply?, hsplit.parse?_eq, Option.bind_eq_bind, Option.bind_some, hname]
  rfl

theorem Calls.reply?_price (h : Calls mark content "price" rest) :
    reply? mark table content = some (priceReply mark table (String.ofList (trim rest))) := by
  obtain ⟨word, hsplit, hletters⟩ := h
  have hname : (String.ofList word).lowered = "price" :=
    (lowered_eq_iff_of_mem_names (by decide)).2 hletters
  rw [reply?, hsplit.parse?_eq, Option.bind_eq_bind, Option.bind_some, hname]
  rfl

/-- There is an answer (`reply?`) exactly to the commands (`Calls`). -/
theorem reply?_isSome_iff :
    (reply? mark table content).isSome = true ↔
      ∃ name ∈ names, ∃ rest, Calls mark content name rest := by
  constructor
  · intro hreply
    obtain ⟨reply, hreply⟩ := Option.isSome_iff_exists.1 hreply
    obtain ⟨invocation, hparse, hanswer⟩ := Option.bind_eq_some_iff.1 hreply
    obtain ⟨word, rest, hsplit, rfl⟩ := parse?_eq_some_iff.1 hparse
    have hname : (String.ofList word).lowered ∈ names := by
      split at hanswer
      · rename_i hping
        rw [hping]
        decide
      · rename_i hprice
        rw [hprice]
        decide
      · cases hanswer
    exact ⟨_, hname, rest, word, hsplit, (lowered_eq_iff_of_mem_names hname).1 rfl⟩
  · rintro ⟨name, hname, rest, hcalls⟩
    obtain rfl | rfl : name = "ping" ∨ name = "price" := by simpa [names] using hname
    · rw [hcalls.reply?_ping]
      rfl
    · rw [hcalls.reply?_price]
      rfl

/-! ## Prices -/

/-- What is quoted for a model. -/
def quote (model : String) (rates : Rates) : String :=
  canonical model ++ ": " ++ dollars rates.input ++ " per 1K input tokens, " ++
    dollars rates.output ++ " per 1K output tokens"

/-- What is said of a model without a price. -/
def regret (model : String) : String :=
  "No pricing known for " ++ model

/-- Up to its first blank a quotation is the canonical name with a colon, and the regret is not. -/
theorem quote_ne_regret (model other : String) (rates : Rates) :
    quote model rates ≠ regret other := by
  intro hsame
  obtain ⟨tail, hquote⟩ : ∃ tail,
      (quote model rates).toList = canonicalChars model.toList ++ [':'] ++ ' ' :: tail := by
    refine ⟨(dollars rates.input ++ " per 1K input tokens, " ++ dollars rates.output ++
      " per 1K output tokens").toList, ?_⟩
    rw [quote]
    generalize dollars rates.input = input
    generalize dollars rates.output = output
    simp [canonical]
  obtain ⟨words, hwords⟩ : ∃ words, "No pricing known for ".toList = ['N', 'o'] ++ ' ' :: words :=
    ⟨_, rfl⟩
  have hchars : (quote model rates).toList = ['N', 'o'] ++ ' ' :: (words ++ other.toList) := by
    have hregret : regret other = "No pricing known for " ++ other := rfl
    rw [hsame, hregret, String.toList_append, hwords]
    exact List.append_assoc ['N', 'o'] (' ' :: words) other.toList
  have hname : ∀ c ∈ canonicalChars model.toList ++ [':'], isBlank c = false := by
    rw [List.forall_mem_append, List.forall_mem_singleton]
    exact ⟨(Price.plain_canonicalChars model.toList).no_blank, rfl⟩
  have hno : ∀ c ∈ ['N', 'o'], isBlank c = false := by
    rw [List.forall_mem_cons, List.forall_mem_singleton]
    exact ⟨rfl, rfl⟩
  -- What stands before the first blank ends in a colon here, and in another letter there.
  have hcut := congrArg (splitAtFirst isBlank) (hquote.symm.trans hchars)
  rw [splitAtFirst_append_cons hname (by decide), splitAtFirst_append_cons hno (by decide),
    Option.some.injEq, Prod.mk.injEq] at hcut
  have hlast := congrArg List.getLast? hcut.1
  rw [List.getLast?_concat] at hlast
  exact absurd hlast (by decide)

variable {model : String} {rates : Rates}

theorem priceReply_of_find?_eq_some (hmodel : model ≠ "") (h : table.find? model = some rates) :
    priceReply mark table model = quote model rates := by
  rw [priceReply, if_neg hmodel, h]
  rfl

theorem priceReply_of_find?_eq_none (hmodel : model ≠ "") (h : table.find? model = none) :
    priceReply mark table model = regret model := by
  rw [priceReply, if_neg hmodel, h]
  rfl

theorem priceReply_eq_regret_iff (hmodel : model ≠ "") :
    priceReply mark table model = regret model ↔ table.find? model = none := by
  refine ⟨fun hregret => ?_, priceReply_of_find?_eq_none hmodel⟩
  cases hfound : table.find? model with
  | none => rfl
  | some rates =>
    rw [priceReply_of_find?_eq_some hmodel hfound] at hregret
    exact absurd hregret (quote_ne_regret model model rates)

/-- The commands answer exactly the messages that call one of them (`Calls`), whatever the mark and
the prices. The answer to a ping is always the same. The answer about a price tells how to ask when
no model is named, and else it is the `quote` if the model has a price, and the `regret` if and only
if it has none. Nothing but the trimmed text of the message counts. -/
theorem answers_calls_only (mark : String) (table : Table) (message : Message) :
    ((Commands.reply? (some (mark, table)) message).isSome = true ↔
      ∃ name ∈ names, ∃ rest, Calls mark message.content name rest) ∧
    (∀ rest, Calls mark message.content "ping" rest →
      Commands.reply? (some (mark, table)) message = some "pong") ∧
    (∀ rest, Calls mark message.content "price" rest → trim rest = [] →
      Commands.reply? (some (mark, table)) message =
        some ("Usage: " ++ mark ++ "price <model>")) ∧
    (∀ rest, Calls mark message.content "price" rest → trim rest ≠ [] →
      (Commands.reply? (some (mark, table)) message = some (regret (String.ofList (trim rest))) ↔
        table.find? (String.ofList (trim rest)) = none) ∧
      ∀ rates, table.find? (String.ofList (trim rest)) = some rates →
        Commands.reply? (some (mark, table)) message =
          some (quote (String.ofList (trim rest)) rates)) ∧
    ∀ other : Message, other.content.trimmed = message.content.trimmed →
      Commands.reply? (some (mark, table)) other =
        Commands.reply? (some (mark, table)) message := by
  have hreply (message : Message) :
      Commands.reply? (some (mark, table)) message = reply? mark table message.content := rfl
  simp only [hreply]
  refine ⟨reply?_isSome_iff, fun rest hping => hping.reply?_ping, fun rest hprice hnone => ?_,
    fun rest hprice hsome => ?_, fun other htrimmed => ?_⟩
  · rw [hprice.reply?_price, hnone]
    rfl
  · have hmodel : String.ofList (trim rest) ≠ "" := by
      rw [Ne, String.ofList_eq_empty_iff]
      exact hsome
    rw [hprice.reply?_price]
    refine ⟨?_, fun rates hrates => ?_⟩
    · rw [Option.some.injEq]
      exact priceReply_eq_regret_iff hmodel
    · rw [priceReply_of_find?_eq_some hmodel hrates]
  · have hchars : trim other.content.toList = trim message.content.toList :=
      String.ofList_injective htrimmed
    rw [reply?, reply?, parse?, parse?, hchars]

/-- A small i is not all that a dotted capital becomes. -/
example : reply? "!" Table.empty "!pİng" = none := by decide +kernel

/-- A message with a content. -/
def saying (content : String) : Message :=
  .ofPerson "1" "c" "ann" content default

/-- Commands whose mark ends in a blank: one about no model, one about a model that nobody knows,
and one that asks for nothing. -/
theorem answers_behind_wide_mark :
    Commands.reply? (some ("! ", Table.builtIn)) (saying "! Price") =
        some "Usage: ! price <model>" ∧
      Commands.reply? (some ("! ", Table.builtIn)) (saying "\t! PrIcE\u2003 House  model\n") =
        some "No pricing known for House  model" ∧
      Commands.reply? (some ("! ", Table.builtIn)) (saying " ! pINg\u0085pong?") = some "pong" := by
  have hprice : Calls "! " (saying "! Price").content "price" [] :=
    ⟨"Price".toList, by decide, by decide⟩
  have hmodel : Calls "! " (saying "\t! PrIcE\u2003 House  model\n").content "price"
      "\u2003 House  model".toList :=
    ⟨"PrIcE".toList, by decide, by decide⟩
  have hping : Calls "! " (saying " ! pINg\u0085pong?").content "ping" "\u0085pong?".toList :=
    ⟨"pINg".toList, by decide, by decide⟩
  obtain ⟨-, -, husage, -⟩ := answers_calls_only "! " Table.builtIn (saying "! Price")
  obtain ⟨-, -, -, hprices, -⟩ := answers_calls_only "! " Table.builtIn
    (saying "\t! PrIcE\u2003 House  model\n")
  obtain ⟨-, hpings, -⟩ := answers_calls_only "! " Table.builtIn (saying " ! pINg\u0085pong?")
  exact ⟨husage [] hprice rfl, (hprices _ hmodel (by decide)).1.2 rfl, hpings _ hping⟩

end Command

end Gadfly
