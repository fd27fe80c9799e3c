/-
  Gadfly.Proofs.Sentinel

  When the sentinel is left in an answer.

  `stripSentinel` deletes the sentinel from a forced critique in one scan from left to right
  (`Text.without`), and what the deletion joins is not looked at again. So it is left in some
  texts: exactly in those in which one sentinel, cut into parts, stands around others
  (`Prompt.Nested`). Such an answer is sent with the sentinel in it.

  The scan cleans two texts in a row each on its own, unless an occurrence lies across the border
  of the two (`without_append`). The sentinel begins with a character that does not come again in
  it, so no occurrence lies across the borders of a part of which just the sentinel is left.

  Main definitions: `Prompt.Nested`.
  Main statements: `Text.without_append`, `Text.infix_without_iff`,
  `Prompt.mentions_stripSentinel_iff`, `Router.sentinel_stripped_iff_not_nested`.
-/

import Mathlib.Data.List.Infix
import Gadfly.Proofs.Course

namespace Gadfly

namespace Text

/-! ## Deletion in one scan -/

variable {needle text front back : List Char}

theorem withoutFrom_append (needle passed rest : List Char) :
    withoutFrom needle passed.length (passed ++ rest) = withoutFrom needle 0 rest := by
  induction passed with
  | nil => rfl
  | cons c passed ih => exact ih

/-- An occurrence in front is deleted. -/
theorem without_append_self (hneedle : needle ≠ []) (rest : List Char) :
    without needle (needle ++ rest) = without needle rest := by
  cases needle with
  | nil => exact absurd rfl hneedle
  | cons a tail =>
    have hfound : (a :: tail).isPrefixOf (a :: (tail ++ rest)) = true :=
      List.isPrefixOf_iff_prefix.2 (List.prefix_append (a :: tail) rest)
    rw [List.cons_append, without, withoutFrom, if_pos hfound]
    exact withoutFrom_append _ tail rest

/-- A character at which no occurrence begins is kept. -/
theorem without_cons {c : Char} {rest : List Char} (h : ¬ needle <+: c :: rest) :
    without needle (c :: rest) = c :: without needle rest := by
  rw [← List.isPrefixOf_iff_prefix] at h
  rw [without, withoutFrom, if_neg h]
  rfl

/-- The scan is at the end of the text, or it meets an occurrence, or it passes a character. -/
theorem scan_induction (hneedle : needle ≠ []) {P : List Char → Prop} (nil : P [])
    (found : ∀ rest, P rest → P (needle ++ rest))
    (passed : ∀ c rest, ¬ needle <+: c :: rest → P rest → P (c :: rest)) (text : List Char) :
    P text := by
  -- An occurrence takes away any number of characters, so the induction is on the length.
  induction hlength : text.length using Nat.strong_induction_on generalizing text with
  | _ n ih =>
    subst hlength
    by_cases hfound : needle <+: text
    · obtain ⟨rest, rfl⟩ := hfound
      have hshorter : rest.length < (needle ++ rest).length := by
        have hpos := List.length_pos_iff.2 hneedle
        rw [List.length_append]
        omega
      exact found rest (ih _ hshorter rest rfl)
    · cases text with
      | nil => exact nil
      | cons c rest => exact passed c rest hfound (ih _ (Nat.lt_succ_self _) rest rfl)

/-- A text without occurrences is kept as it is. -/
theorem without_of_not_infix (h : ¬ needle <:+: text) : without needle text = text := by
  induction text with
  | nil => rfl
  | cons c rest ih =>
    rw [List.infix_cons_iff, not_or] at h
    rw [without_cons h.1, ih h.2]

/-- Two texts in a row are cleaned by `without` each on its own, unless an occurrence begins in the
first and ends in the second. -/
theorem without_append (hneedle : needle ≠ [])
    (h : ∀ first second, needle = first ++ second → first ≠ [] → second ≠ [] →
      first <:+ front → ¬ second <+: back) :
    without needle (front ++ back) = without needle front ++ without needle back := by
  induction front using scan_induction hneedle with
  | nil => rfl
  | found rest ih =>
    rw [List.append_assoc, without_append_self hneedle, without_append_self hneedle]
    apply ih
    intro first second hsplit hfirst hsecond hsuffix
    exact h first second hsplit hfirst hsecond (hsuffix.trans (List.suffix_append _ _))
  | passed c rest hpassed ih =>
    have hkept : ¬ needle <+: c :: (rest ++ back) := by
      intro hfound
      rw [← List.cons_append] at hfound
      -- An occurrence that begins here would have to end in the second text.
      rcases List.prefix_or_prefix_of_prefix hfound (List.prefix_append _ _) with hfits | hexceeds
      · exact hpassed hfits
      · obtain ⟨second, rfl⟩ := hexceeds
        have hsecond : second ≠ [] := by
          rintro rfl
          exact hpassed (by rw [List.append_nil])
        have hinside := (List.prefix_append_right_inj _).1 hfound
        exact h _ second rfl (List.cons_ne_nil _ _) hsecond List.suffix_rfl hinside
    rw [List.cons_append, without_cons hkept, without_cons hpassed, List.cons_append, ih]
    intro first second hsplit hfirst hsecond hsuffix
    exact h first second hsplit hfirst hsecond (hsuffix.trans (List.suffix_cons _ _))

/-- Wherever what is left of a text is cut in two, the text itself can be cut to match. -/
theorem exists_of_without_eq_append (hneedle : needle ≠ []) {first second : List Char}
    (h : without needle text = first ++ second) :
    ∃ front back, text = front ++ back ∧ without needle front = first ∧
      without needle back = second := by
  induction text using scan_induction hneedle generalizing first with
  | nil =>
    obtain ⟨rfl, rfl⟩ := List.append_eq_nil_iff.1 h.symm
    exact ⟨[], [], rfl, rfl, rfl⟩
  | found rest ih =>
    rw [without_append_self hneedle] at h
    obtain ⟨front, back, rfl, hfront, hback⟩ := ih h
    refine ⟨needle ++ front, back, (List.append_assoc _ _ _).symm, ?_, hback⟩
    rw [without_append_self hneedle, hfront]
  | passed c rest hpassed ih =>
    cases first with
    | nil => exact ⟨[], c :: rest, rfl, rfl, h⟩
    | cons d first =>
      rw [without_cons hpassed, List.cons_append, List.cons.injEq] at h
      obtain ⟨rfl, h⟩ := h
      obtain ⟨front, back, rfl, hfront, hback⟩ := ih h
      refine ⟨c :: front, back, rfl, ?_, hback⟩
      -- An occurrence in the front would be one in the whole.
      have hkept : ¬ needle <+: c :: front := fun hfound =>
        hpassed (hfound.trans (List.prefix_append (c :: front) back))
      rw [without_cons hkept, hfront]

theorem prefix_intercalate_cons (needle part : List Char) (parts : List (List Char)) :
    part <+: needle.intercalate (part :: parts) := by
  cases parts with
  | nil => rw [List.intercalate_singleton]
  | cons other parts =>
    rw [List.intercalate_cons_cons, List.append_assoc]
    exact List.prefix_append _ _

/-- A text is made of parts with the needle between them, and the parts are what is left of it. -/
theorem exists_parts (hneedle : needle ≠ []) (text : List Char) :
    ∃ parts, text = needle.intercalate parts ∧ without needle text = parts.flatten ∧
      needle ∉ parts ∧ parts ≠ [] := by
  induction text using scan_induction hneedle with
  | nil => exact ⟨[[]], rfl, rfl, by simpa using hneedle, List.cons_ne_nil _ _⟩
  | found rest ih =>
    obtain ⟨parts, rfl, hleft, hfree, hparts⟩ := ih
    obtain ⟨part, parts, rfl⟩ := List.exists_cons_of_ne_nil hparts
    refine ⟨[] :: part :: parts, ?_, ?_, ?_, List.cons_ne_nil _ _⟩
    · rw [List.intercalate_cons_cons, List.nil_append]
    · rw [without_append_self hneedle, hleft]
      rfl
    · rw [List.mem_cons, not_or]
      exact ⟨hneedle, hfree⟩
  | passed c rest hpassed ih =>
    obtain ⟨parts, rfl, hleft, hfree, hparts⟩ := ih
    obtain ⟨part, parts, rfl⟩ := List.exists_cons_of_ne_nil hparts
    -- The character goes with the first part.
    have hgrown : needle.intercalate ((c :: part) :: parts) =
        c :: needle.intercalate (part :: parts) := by
      cases parts with
      | nil => rw [List.intercalate_singleton, List.intercalate_singleton]
      | cons other parts => rfl
    refine ⟨(c :: part) :: parts, hgrown.symm, ?_, ?_, List.cons_ne_nil _ _⟩
    · rw [without_cons hpassed, hleft]
      rfl
    · rw [List.mem_cons, not_or]
      refine ⟨?_, fun hmem => hfree (List.mem_cons_of_mem _ hmem)⟩
      intro hwhole
      apply hpassed
      rw [← hgrown, ← hwhole]
      exact prefix_intercalate_cons _ _ _

/-! ## Needles whose first character does not come again -/

section Marked

variable {a : Char} {tail : List Char}

/-- Such a needle cannot end in a text that begins like it. -/
theorem not_prefix_of_split (ha : a ∉ tail) {first second : List Char}
    (hsplit : a :: tail = first ++ second) (hfirst : first ≠ []) (hsecond : second ≠ [])
    (rest : List Char) : ¬ second <+: a :: rest := by
  obtain ⟨b, first, rfl⟩ := List.exists_cons_of_ne_nil hfirst
  obtain ⟨c, second, rfl⟩ := List.exists_cons_of_ne_nil hsecond
  rw [List.cons_append, List.cons.injEq] at hsplit
  rintro ⟨_, hprefix⟩
  obtain ⟨rfl, -⟩ := List.cons.inj hprefix
  exact ha (hsplit.2 ▸ List.mem_append_right first List.mem_cons_self)

/-- Whatever stands before a text that begins like the needle is cleaned on its own. -/
theorem without_append_cons (ha : a ∉ tail) (front rest : List Char) :
    without (a :: tail) (front ++ a :: rest) =
      without (a :: tail) front ++ without (a :: tail) (a :: rest) := by
  apply without_append (List.cons_ne_nil _ _)
  intro first second hsplit hfirst hsecond _
  exact not_prefix_of_split ha hsplit hfirst hsecond rest

/-- Parts without occurrences are what is left when the needle stands between them. -/
theorem without_intercalate (ha : a ∉ tail) {parts : List (List Char)}
    (hparts : ∀ part ∈ parts, ¬ a :: tail <:+: part) :
    without (a :: tail) ((a :: tail).intercalate parts) = parts.flatten := by
  -- Part by part: the scan finds the needle where the part ends, and no sooner.
  induction parts with
  | nil => rfl
  | cons part parts ih =>
    rw [List.forall_mem_cons] at hparts
    cases parts with
    | nil =>
      rw [List.intercalate_singleton, without_of_not_infix hparts.1, List.flatten_singleton]
    | cons other parts =>
      have hrest := ih hparts.2
      rw [List.intercalate_cons_cons, List.append_assoc, List.cons_append, without_append_cons ha,
        ← List.cons_append, without_append_self (List.cons_ne_nil _ _), hrest,
        without_of_not_infix hparts.1]
      rfl

/-- A text of which just the needle is left begins like the needle. -/
theorem exists_eq_cons_of_without_eq {part : List Char}
    (h : without (a :: tail) part = a :: tail) : ∃ rest, part = a :: rest := by
  cases part with
  | nil => cases h
  | cons c rest =>
    refine ⟨rest, ?_⟩
    by_cases hfound : a :: tail <+: c :: rest
    · rw [(List.cons_prefix_cons.1 hfound).1]
    · rw [without_cons hfound] at h
      rw [(List.cons.inj h).1]

/-- In a text of which just the needle is left no occurrence begins that does not end in it. -/
theorem not_suffix_of_split (ha : a ∉ tail) {part first second : List Char}
    (h : without (a :: tail) part = a :: tail) (hsplit : a :: tail = first ++ second)
    (hfirst : first ≠ []) (hsecond : second ≠ []) : ¬ first <:+ part := by
  rintro ⟨front, rfl⟩
  obtain ⟨b, first, rfl⟩ := List.exists_cons_of_ne_nil hfirst
  rw [List.cons_append, List.cons.injEq] at hsplit
  obtain ⟨rfl, htail⟩ := hsplit
  have hshort : ¬ a :: tail <:+: a :: first := by
    intro hwithin
    have hlength := hwithin.length_le
    have hpos := List.length_pos_iff.2 hsecond
    rw [htail, List.length_cons, List.length_cons, List.length_append] at hlength
    omega
  -- What has begun is kept, with the first character of the needle at a place of its own.
  rw [without_append_cons ha, without_of_not_infix hshort] at h
  rcases hfront : without (a :: tail) front with _ | ⟨c, kept⟩
  · rw [hfront, List.nil_append, List.cons.injEq] at h
    exact hsecond (List.self_eq_append_right.1 (h.2.trans htail))
  · rw [hfront, List.cons_append, List.cons.injEq] at h
    exact ha (h.2 ▸ List.mem_append_right kept List.mem_cons_self)

/-- The needle is left in a text by `without` exactly when just the needle is left of some part of
it. -/
theorem infix_without_iff (ha : a ∉ tail) :
    a :: tail <:+: without (a :: tail) text ↔
      ∃ part, part <:+: text ∧ without (a :: tail) part = a :: tail := by
  have hneedle : a :: tail ≠ [] := List.cons_ne_nil _ _
  constructor
  · rintro ⟨before, after, h⟩
    obtain ⟨front, back, rfl, hfront, -⟩ := exists_of_without_eq_append hneedle h.symm
    obtain ⟨front, part, rfl, -, hpart⟩ := exists_of_without_eq_append hneedle hfront
    exact ⟨part, ⟨front, back, rfl⟩, hpart⟩
  · rintro ⟨part, ⟨front, back, rfl⟩, hpart⟩
    obtain ⟨rest, rfl⟩ := exists_eq_cons_of_without_eq hpart
    -- Neither border of the part cuts through an occurrence.
    have hback : without (a :: tail) (a :: rest ++ back) =
        a :: tail ++ without (a :: tail) back := by
      rw [without_append hneedle, hpart]
      intro first second hsplit hfirst hsecond hsuffix
      exact absurd hsuffix (not_suffix_of_split ha hpart hsplit hfirst hsecond)
    rw [List.append_assoc, List.cons_append, without_append_cons ha, ← List.cons_append, hback]
    exact ⟨without (a :: tail) front, without (a :: tail) back, List.append_assoc _ _ _⟩

/-- Just the needle is left of a text exactly when that is the needle cut into parts with the
needle between them. -/
theorem without_eq_self_iff (ha : a ∉ tail) {part : List Char} :
    without (a :: tail) part = a :: tail ↔
      ∃ parts, parts.flatten = a :: tail ∧ a :: tail ∉ parts ∧
        part = (a :: tail).intercalate parts := by
  constructor
  · intro h
    obtain ⟨parts, hpart, hleft, hfree, -⟩ := exists_parts (List.cons_ne_nil a tail) part
    exact ⟨parts, hleft.symm.trans h, hfree, hpart⟩
  · rintro ⟨parts, hflatten, hfree, rfl⟩
    rw [without_intercalate ha, hflatten]
    -- A part with an occurrence in it would be the whole needle.
    intro other hother hwithin
    have hlength := (List.sublist_flatten_of_mem hother).length_le
    rw [hflatten] at hlength
    exact hfree (hwithin.eq_of_length_le hlength ▸ hother)

end Marked

/-! ## Trimming -/

/-- Trimming in front takes nothing from a needle that does not begin with a blank. -/
theorem infix_trimStart_iff {a : Char} {tail : List Char} (ha : isBlank a = false) :
    a :: tail <:+: trimStart text ↔ a :: tail <:+: text := by
  constructor
  · intro h
    exact h.trans (List.dropWhile_suffix _).isInfix
  · intro h
    induction text with
    | nil => exact h
    | cons c rest ih =>
      rw [trimStart, List.dropWhile_cons]
      split
      · rename_i hblank
        rcases List.infix_cons_iff.1 h with hfound | hlater
        · -- The needle would begin with the blank.
          rw [(List.cons_prefix_cons.1 hfound).1, hblank] at ha
          cases ha
        · exact ih hlater
      · exact h

/-- Trimming takes nothing from a needle with blanks at neither end. -/
theorem infix_trim_iff {a z : Char} {tail initial : List Char} (ha : isBlank a = false)
    (hz : isBlank z = false) (hends : a :: tail = initial ++ [z]) :
    a :: tail <:+: trim text ↔ a :: tail <:+: text := by
  have hreverse : (a :: tail).reverse = z :: initial.reverse := by
    rw [hends, List.reverse_append]
    rfl
  -- The end of the text is the front of the reversed text.
  have hend : (trim text).reverse = trimStart (trimStart text).reverse := List.reverse_reverse _
  rw [← List.reverse_infix, hend, hreverse, infix_trimStart_iff hz, ← hreverse,
    List.reverse_infix, infix_trimStart_iff ha]

end Text

/-! ## Answers with the sentinel in them -/

namespace Prompt

/-- A text in which a sentinel stands around others: cut into parts, with sentinels between
them. -/
def Nested (text : String) : Prop :=
  ∃ parts, parts.flatten = sentinel.toList ∧ sentinel.toList ∉ parts ∧
    sentinel.toList.intercalate parts <:+: text.toList

/-- The sentinel is left by `stripSentinel` in exactly the texts in which sentinels are `Nested`. -/
theorem mentions_stripSentinel_iff (text : String) :
    (stripSentinel text).mentions sentinel = true ↔ Nested text := by
  obtain ⟨a, tail, hsentinel, ha, hblank⟩ : ∃ a tail, sentinel.toList = a :: tail ∧ a ∉ tail ∧
      Text.isBlank a = false := ⟨'<', _, rfl, by decide, by decide⟩
  obtain ⟨z, initial, hends, hz⟩ : ∃ z initial, sentinel.toList = initial ++ [z] ∧
      Text.isBlank z = false :=
    ⟨'>', "<no response necessary".toList, by decide, by decide⟩
  -- The sentinel has no blank at either end, so the trimming does not matter.
  rw [Nested, String.mentions, Text.occursIn_iff, stripSentinel, String.toList_ofList, hsentinel,
    Text.infix_trim_iff hblank hz (hsentinel.symm.trans hends), Text.infix_without_iff ha]
  constructor
  · rintro ⟨part, hwithin, hpart⟩
    obtain ⟨parts, hflatten, hfree, rfl⟩ := (Text.without_eq_self_iff ha).1 hpart
    exact ⟨parts, hflatten, hfree, hwithin⟩
  · rintro ⟨parts, hflatten, hfree, hwithin⟩
    exact ⟨_, hwithin, (Text.without_eq_self_iff ha).2 ⟨parts, hflatten, hfree, rfl⟩⟩

end Prompt

namespace Router

/-- What is sent to somebody who addressed the bot is a forced critique without the sentinels that
one scan meets. -/
theorem exists_stripped_of_sent {σ : Type} (router : Router) (message : Message)
    (transcript : String) (partner : Partner σ) (s : σ) {e : Exchange} {text : String}
    (he : e ∈ (router.direct message transcript).exchanges partner s)
    (htext : e.call.sent? = some text) :
    ∃ response, ⟨.complete ⟨router.settings.expensiveModel,
        Prompt.critique router.persona transcript true⟩, some (.ok response)⟩ ∈
          (router.direct message transcript).exchanges partner s ∧
      text = stripSentinel response.normal.text := by
  obtain ⟨first, rest, hsplit⟩ := List.append_of_mem he
  have hcourse := Dialogue.course_exchanges partner (router.direct message transcript) s
  rw [direct_eq_write] at hcourse hsplit ⊢
  obtain ⟨response, hresponse, hedit⟩ :=
    hcourse.warrant_of_eq (router.warranted_write message _ []) hsplit text htext
  refine ⟨response, hsplit ▸ List.mem_append_left _ hresponse, ?_⟩
  simp only [forced] at hedit
  split at hedit
  · cases hedit
  · exact (Option.some.inj hedit).symm

/-- The one scan of `stripSentinel` frees a text of the sentinel exactly when no sentinels are
`Nested` in it, and so what `direct` sends to somebody who addressed the bot is free of it exactly
when the model's answer had no nested ones. -/
theorem sentinel_stripped_iff_not_nested {σ : Type} (router : Router) (message : Message)
    (transcript : String) (partner : Partner σ) (s : σ) (raw : String) :
    ((stripSentinel raw).mentions Prompt.sentinel = false ↔ ¬ Prompt.Nested raw) ∧
    ∀ e ∈ (router.direct message transcript).exchanges partner s, ∀ text,
      e.call.sent? = some text →
      ∃ response, ⟨.complete ⟨router.settings.expensiveModel,
          Prompt.critique router.persona transcript true⟩, some (.ok response)⟩ ∈
            (router.direct message transcript).exchanges partner s ∧
        text = stripSentinel response.normal.text ∧
        (text.mentions Prompt.sentinel = false ↔ ¬ Prompt.Nested response.normal.text) := by
  have hfree : ∀ raw, (stripSentinel raw).mentions Prompt.sentinel = false ↔
      ¬ Prompt.Nested raw := by
    intro raw
    rw [← Prompt.mentions_stripSentinel_iff, Bool.not_eq_true]
  refine ⟨hfree raw, ?_⟩
  intro e he text htext
  obtain ⟨response, hresponse, rfl⟩ :=
    router.exists_stripped_of_sent message transcript partner s he htext
  exact ⟨response, hresponse, rfl, hfree _⟩

section Scene

open Rehearsal

/-- One sentinel inside another. -/
def nestedSentinel : String :=
  "<no response <no response necessary>necessary>"

/-- The model answers with one sentinel inside another. -/
def disobedience : Set :=
  .fresh
    { selfId := "bot-1", history := .ok [], ignoresLimit := false, typing := .ok (), sends := [] }
    [.answer (.ok (.ofText nestedSentinel))]
    none

theorem sentinel_left_in_nested :
    bot.classify claim = .direct ∧
    ¬ (∀ text, (stripSentinel text).mentions Prompt.sentinel = false) ∧
    ∃ e ∈ (bot.direct claim "alice: pineapple belongs on pizza").exchanges partner disobedience,
      e.call.sent? = some Prompt.sentinel := by
  have hleft : (stripSentinel nestedSentinel).mentions Prompt.sentinel = true := by
    decide +kernel
  refine ⟨by decide +kernel, fun hnever => ?_, by decide +kernel⟩
  rw [hnever] at hleft
  cases hleft

theorem nested_of_sentinel_sent :
    ∃ e ∈ (bot.direct claim "alice: pineapple belongs on pizza").exchanges partner disobedience,
      e.call.sent? = some Prompt.sentinel ∧
      ∃ response, ⟨.complete ⟨bot.settings.expensiveModel,
          Prompt.critique bot.persona "alice: pineapple belongs on pizza" true⟩,
            some (.ok response)⟩ ∈
          (bot.direct claim "alice: pineapple belongs on pizza").exchanges partner disobedience ∧
        Prompt.Nested response.normal.text := by
  have hsent : ∃ e ∈ (bot.direct claim "alice: pineapple belongs on pizza").exchanges partner
      disobedience, e.call.sent? = some Prompt.sentinel := by
    decide +kernel
  obtain ⟨e, he, htext⟩ := hsent
  obtain ⟨response, hresponse, -, hfree⟩ :=
    (sentinel_stripped_iff_not_nested bot claim _ partner disobedience "").2 e he _ htext
  have hmentioned : Prompt.sentinel.mentions Prompt.sentinel ≠ false := by decide +kernel
  exact ⟨e, he, htext, response, hresponse, not_not.1 fun h => hmentioned (hfree.2 h)⟩

end Scene

end Router

end Gadfly
