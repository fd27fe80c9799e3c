/-
  Gadfly.Proofs.Lowering

  Lowering in context.

  How a capital sigma is lowered depends on the letters around it, so `Text.lower` cannot go
  letter by letter. But the search for those letters ends at an edge (`isEdge`), a character that
  neither has case nor is passed over, such as a blank or an at sign: what stands beyond an edge
  has no part in it. A blank stays as it is, and nothing else becomes one. And the search does not
  look at the case of a letter, so that capitals of ASCII make no difference
  (`lower_map_toLower`). Few other characters become letters of ASCII; a word without an i or a k
  is the lower case of its own letters only, and an i comes from elsewhere only with a dot behind
  it.

  Main definitions: `Text.isEdge`, `Text.Apart`, `Text.ownSmallLetters`.
  Main statements: `Text.lower_append`, `Text.lower_cons_of_isEdge`, `Text.prefix_lowerAfter_iff`,
  `Text.lower_map_toLower`, `Text.lower_eq_iff`.
-/

import Gadfly.Proofs.Blank

namespace Gadfly.Text

/-! ## Edges -/

/-- Whether a character ends the search for letters and is none. -/
def isEdge (c : Char) : Bool :=
  !inSpans caseIgnorableSpans c.toNat && !inSpans casedSpans c.toNat

/-- Nothing, or a text that begins with an edge. -/
def Apart (cs : List Char) : Prop :=
  ∀ c ∈ cs.head?, isEdge c = true

variable {cs before after blanks : List Char} {c d : Char}

theorem apart_cons_iff : Apart (c :: cs) ↔ isEdge c = true := by
  simp [Apart]

theorem reachesCased_cons :
    reachesCased (c :: cs) =
      if inSpans caseIgnorableSpans c.toNat then reachesCased cs
      else inSpans casedSpans c.toNat := by
  cases hignorable : inSpans caseIgnorableSpans c.toNat <;>
    simp [reachesCased, hignorable]

theorem reachesCased_cons_of_isEdge (h : isEdge c = true) : reachesCased (c :: cs) = false := by
  rw [isEdge, Bool.and_eq_true, Bool.not_eq_true', Bool.not_eq_true'] at h
  rw [reachesCased_cons, if_neg (ne_true_of_eq_false h.1)]
  exact h.2

theorem Apart.reachesCased_eq (h : Apart after) : reachesCased after = false := by
  cases after with
  | nil => rfl
  | cons c rest => exact reachesCased_cons_of_isEdge (apart_cons_iff.1 h)

/-- The search for a letter does not go beyond an edge. -/
theorem reachesCased_append (h : Apart after) : reachesCased (cs ++ after) = reachesCased cs := by
  induction cs with
  | nil => exact h.reachesCased_eq
  | cons c cs ih => rw [List.cons_append, reachesCased_cons, reachesCased_cons, ih]

theorem endsWord_append (h : Apart after) : endsWord before (cs ++ after) = endsWord before cs := by
  rw [endsWord, reachesCased_append h, endsWord]

theorem endsWord_append_left {beyond : List Char} (h : Apart beyond) :
    endsWord (before ++ beyond) cs = endsWord before cs := by
  rw [endsWord, reachesCased_append h, endsWord]

/-- What follows upon an edge is lowered apart from what is before it. -/
theorem lowerAfter_append (h : Apart after) :
    lowerAfter before (cs ++ after) =
      lowerAfter before cs ++ lowerAfter (cs.reverse ++ before) after := by
  induction cs generalizing before with
  | nil => rfl
  | cons c cs ih =>
    rw [List.cons_append, lowerAfter, lowerAfter, ih, endsWord_append h, List.append_assoc,
      List.reverse_cons, List.append_assoc, List.singleton_append]

/-- What stands before an edge has no part in how a text is lowered. -/
theorem lowerAfter_append_left (before : List Char) {beyond : List Char} (h : Apart beyond) :
    lowerAfter (before ++ beyond) cs = lowerAfter before cs := by
  induction cs generalizing before with
  | nil => rfl
  | cons c cs ih =>
    have hrest : lowerAfter (c :: (before ++ beyond)) cs = lowerAfter (c :: before) cs :=
      ih (c :: before)
    rw [lowerAfter, lowerAfter, hrest, endsWord_append_left h]

theorem lower_append (h : Apart after) :
    lower (cs ++ after) = lower cs ++ lowerAfter cs.reverse after := by
  rw [lower, lowerAfter_append h, List.append_nil]
  rfl

/-- A sigma is a letter. -/
theorem ne_sigma_of_isEdge (h : isEdge c = true) : c ≠ 'Σ' := by
  rintro rfl
  revert h
  decide +kernel

theorem lower_cons_of_isEdge (h : isEdge c = true) : lower (c :: cs) = lowerChar c ++ lower cs := by
  have hrest : lowerAfter [c] cs = lower cs :=
    lowerAfter_append_left [] (apart_cons_iff.2 h)
  rw [lower, lowerAfter, if_neg (ne_sigma_of_isEdge h), hrest]

/-! ## Blanks -/

/-- What holds of all blanks can be told by their code points. -/
theorem of_blank {P : Char → Prop}
    (h : ∀ span ∈ blankSpans, ∀ n < span.2 - span.1 + 1, P (Char.ofNat (span.1 + n)))
    (hc : isBlank c = true) : P c := by
  obtain ⟨span, hspan, hfirst, hlast⟩ := isBlank_iff.1 hc
  have hcode := h span hspan (c.toNat - span.1) (by omega)
  rwa [Nat.add_sub_cancel' hfirst, Char.ofNat_toNat] at hcode

theorem inSpans_eq_false {spans : List Span} {n : Nat}
    (h : ∀ span ∈ spans, n < span.1 ∨ span.2 < n) : inSpans spans n = false := by
  rw [inSpans, List.any_eq_false]
  intro span hspan
  have hout := h span hspan
  simp only [Span.holds, Bool.and_eq_true, decide_eq_true_eq]
  omega

theorem blankSpans_avoid : ∀ blank ∈ blankSpans, ∀ span ∈ caseIgnorableSpans ++ casedSpans,
    blank.2 < span.1 ∨ span.2 < blank.1 := by
  decide +kernel

theorem isEdge_of_isBlank (h : isBlank c = true) : isEdge c = true := by
  obtain ⟨blank, hblank, hfirst, hlast⟩ := isBlank_iff.1 h
  have hout : ∀ span ∈ caseIgnorableSpans ++ casedSpans,
      c.toNat < span.1 ∨ span.2 < c.toNat := by
    intro span hspan
    have havoid := blankSpans_avoid blank hblank span hspan
    omega
  rw [List.forall_mem_append] at hout
  rw [isEdge, inSpans_eq_false hout.1, inSpans_eq_false hout.2]
  rfl

theorem lowerChar_of_isBlank (h : isBlank c = true) : lowerChar c = [c] :=
  of_blank (P := fun c => lowerChar c = [c]) (by decide +kernel) h

/-- The lower case of a character begins with a blank only if the character is that blank. -/
theorem Visible.lowerAfter_cons (hc : isBlank c = false) :
    Visible (lowerAfter before (c :: cs)) := by
  rw [lowerAfter]
  apply Visible.append
  split
  · split
    · exact ⟨'ς', [], rfl, by decide⟩
    · exact ⟨'σ', [], rfl, by decide⟩
  · obtain ⟨d, low, hlow⟩ := List.exists_cons_of_ne_nil (lowerChar_ne_nil c)
    exact ⟨d, low, hlow, not_isBlank_of_mem_lowerChar hc (hlow ▸ List.mem_cons_self)⟩

theorem Visible.lower (h : Visible cs) : Visible (lower cs) := by
  obtain ⟨c, rest, rfl, hc⟩ := h
  exact Visible.lowerAfter_cons hc

theorem lowerAfter_cons_of_isBlank (h : isBlank c = true) :
    lowerAfter before (c :: cs) = c :: lowerAfter (c :: before) cs := by
  rw [lowerAfter, if_neg (ne_sigma_of_isEdge (isEdge_of_isBlank h)), lowerChar_of_isBlank h]
  rfl

/-- The blanks with which a text begins are those with which its lower case (`lowerAfter`)
begins. -/
theorem prefix_lowerAfter_iff (hblanks : ∀ c ∈ blanks, isBlank c = true) :
    blanks <+: lowerAfter before cs ↔ blanks <+: cs := by
  -- Blank by blank: each is its own lower case, whatever stands before it.
  induction blanks generalizing before cs with
  | nil => simp
  | cons b blanks ih =>
    rw [List.forall_mem_cons] at hblanks
    cases cs with
    | nil => rfl
    | cons c cs =>
      by_cases hc : isBlank c = true
      · rw [lowerAfter_cons_of_isBlank hc, List.cons_prefix_cons, List.cons_prefix_cons,
          ih hblanks.2]
      · -- Neither text begins with a blank.
        have hcfalse : isBlank c = false := eq_false_of_ne_true hc
        have hvisible : Visible (lowerAfter before (c :: cs)) := Visible.lowerAfter_cons hcfalse
        obtain ⟨d, low, hlow, hd⟩ := hvisible
        rw [hlow, List.cons_prefix_cons, List.cons_prefix_cons]
        constructor
        · rintro ⟨rfl, -⟩
          rw [hblanks.1] at hd
          cases hd
        · rintro ⟨rfl, -⟩
          exact absurd hblanks.1 hc

theorem lowerAfter_of_blank (hblanks : ∀ c ∈ blanks, isBlank c = true) :
    lowerAfter before blanks = blanks := by
  induction blanks generalizing before with
  | nil => rfl
  | cons b blanks ih =>
    rw [List.forall_mem_cons] at hblanks
    rw [lowerAfter_cons_of_isBlank hblanks.1, ih hblanks.2]

theorem apart_of_blank (hblanks : ∀ c ∈ blanks, isBlank c = true) : Apart blanks :=
  fun c hc => isEdge_of_isBlank (hblanks c (List.mem_of_mem_head? hc))

/-! ## Capitals of ASCII -/

/-- What does not tell a capital of ASCII from its small letter does not see this change
anywhere. -/
theorem apply_toLower {α : Type} {f : Char → α}
    (h : ∀ n < 26, f (Char.ofNat (97 + n)) = f (Char.ofNat (65 + n))) (c : Char) :
    f c.toLower = f c := by
  by_cases hcapital : 65 ≤ c.toNat ∧ c.toNat ≤ 90
  · have hcode := h (c.toNat - 65) (by omega)
    have hlower : ∀ n < 26, (Char.ofNat (65 + n)).toLower = Char.ofNat (97 + n) := by decide
    have hsmall := hlower (c.toNat - 65) (by omega)
    rw [Nat.add_sub_cancel' hcapital.1, Char.ofNat_toNat] at hcode hsmall
    rw [hsmall, hcode]
  · have hsame : c.toLower = c := dif_neg hcapital
    rw [hsame]

theorem lowerChar_toLower (c : Char) : lowerChar c.toLower = lowerChar c :=
  apply_toLower (by decide) c

theorem toLower_eq_sigma_iff : c.toLower = 'Σ' ↔ c = 'Σ' :=
  iff_of_eq (apply_toLower (f := fun c => c = 'Σ') (by decide) c)

theorem isBlank_toLower (c : Char) : isBlank c.toLower = isBlank c :=
  apply_toLower (by decide) c

theorem trim_map_toLower (cs : List Char) :
    trim (cs.map Char.toLower) = (trim cs).map Char.toLower :=
  trim_map isBlank_toLower cs

/-- No letter of ASCII is passed over in the search for letters. -/
theorem caseIgnorableSpans_avoid : ∀ span ∈ caseIgnorableSpans,
    span.2 < 65 ∨ (90 < span.1 ∧ span.2 < 97) ∨ 122 < span.1 := by
  decide +kernel

theorem reachesCased_map_toLower (cs : List Char) :
    reachesCased (cs.map Char.toLower) = reachesCased cs := by
  have hignorable (c : Char) :
      inSpans caseIgnorableSpans c.toLower.toNat = inSpans caseIgnorableSpans c.toNat := by
    refine apply_toLower (f := fun c => inSpans caseIgnorableSpans c.toNat) (fun n hn => ?_) c
    have hvalid : ∀ n < 26, (Char.ofNat (97 + n)).toNat = 97 + n ∧
        (Char.ofNat (65 + n)).toNat = 65 + n := by decide
    rw [(hvalid n hn).1, (hvalid n hn).2]
    rw [inSpans_eq_false, inSpans_eq_false]
    all_goals
      intro span hspan
      have havoid := caseIgnorableSpans_avoid span hspan
      omega
  have hcased (c : Char) : inSpans casedSpans c.toLower.toNat = inSpans casedSpans c.toNat :=
    apply_toLower (f := fun c => inSpans casedSpans c.toNat) (by decide +kernel) c
  induction cs with
  | nil => rfl
  | cons c cs ih =>
    rw [List.map_cons, reachesCased_cons, reachesCased_cons, hignorable, hcased, ih]

theorem endsWord_map_toLower (before cs : List Char) :
    endsWord (before.map Char.toLower) (cs.map Char.toLower) = endsWord before cs := by
  rw [endsWord, reachesCased_map_toLower, reachesCased_map_toLower, endsWord]

theorem lowerAfter_map_toLower (before cs : List Char) :
    lowerAfter (before.map Char.toLower) (cs.map Char.toLower) = lowerAfter before cs := by
  induction cs generalizing before with
  | nil => rfl
  | cons c cs ih =>
    have hrest := ih (c :: before)
    rw [List.map_cons] at hrest
    rw [List.map_cons, lowerAfter, lowerAfter, hrest, endsWord_map_toLower, lowerChar_toLower]
    simp only [toLower_eq_sigma_iff]

/-- Capitals of ASCII do not show in the lower case (`lower`). -/
theorem lower_map_toLower (cs : List Char) : lower (cs.map Char.toLower) = lower cs :=
  lowerAfter_map_toLower [] cs

theorem lower_congr {other : List Char} (h : cs.map Char.toLower = other.map Char.toLower) :
    lower cs = lower other := by
  rw [← lower_map_toLower cs, h, lower_map_toLower]

/-! ## Small letters of ASCII -/

/-- The small letters of ASCII that are the lower case of ASCII letters only. The Kelvin sign is
lowered to a k. -/
def ownSmallLetters : List Span :=
  [(0x61, 0x6A), (0x6C, 0x7A)]

theorem lowerRuns_avoid_ownSmallLetters : ∀ run ∈ lowerRuns, ∀ span ∈ ownSmallLetters,
    run.last + run.shift < span.1 ∨ (span.2 : Int) < run.first + run.shift := by
  decide +kernel

theorem lt_of_ownSmallLetters {n : Nat} (h : inSpans ownSmallLetters n = true) : n < 0x80 := by
  have hlast : ∀ span ∈ ownSmallLetters, span.2 < 0x80 := by decide
  rw [inSpans, List.any_eq_true] at h
  obtain ⟨span, hspan, hholds⟩ := h
  rw [Span.holds, Bool.and_eq_true, decide_eq_true_eq, decide_eq_true_eq] at hholds
  exact Nat.lt_of_le_of_lt hholds.2 (hlast span hspan)

/-- A character that becomes such a letter, and nothing else, is one of ASCII. -/
theorem ascii_of_lowerChar (h : ∀ d ∈ lowerChar c, inSpans ownSmallLetters d.toNat = true) :
    c.toNat < 0x80 := by
  by_contra hascii
  by_cases hdotted : c.toNat = 0x130
  · -- A dot remains of the dotted capital I.
    rw [lowerChar, if_neg hascii, if_pos hdotted] at h
    have hdot := h (Char.ofNat 0x307) (by simp)
    revert hdot
    decide
  · rw [lowerChar, if_neg hascii, if_neg hdotted, List.forall_mem_singleton, inSpans,
      List.any_eq_true] at h
    obtain ⟨span, hspan, hholds⟩ := h
    rw [Span.holds, Bool.and_eq_true, decide_eq_true_eq, decide_eq_true_eq] at hholds
    have hbounds : ∀ span ∈ ownSmallLetters, 0 < span.1 ∧ span.2 < 0x80 := by decide
    have hspanBounds := hbounds span hspan
    obtain hsame | ⟨run, hrun, image, himage, hmoved⟩ := shiftBy_eq_or lowerRuns c
    · rw [hsame] at hholds
      omega
    · have havoids := CaseRun.image?_avoids (lowerRuns_avoid_ownSmallLetters run hrun span hspan)
        hspanBounds.1 himage
      have hcode := toNat_ofNat_eq_or image
      rw [hmoved] at hholds
      omega

theorem ascii_of_lowerAfter
    (h : ∀ d ∈ lowerAfter before cs, inSpans ownSmallLetters d.toNat = true) :
    ∀ c ∈ cs, c.toNat < 0x80 := by
  induction cs generalizing before with
  | nil => exact nofun
  | cons c cs ih =>
    rw [lowerAfter, List.forall_mem_append] at h
    rw [List.forall_mem_cons]
    refine ⟨?_, ih h.2⟩
    have hhere := h.1
    split at hhere
    · -- No sigma is a letter of ASCII.
      exfalso
      split at hhere
      · exact absurd (hhere _ List.mem_cons_self) (by decide)
      · exact absurd (hhere _ List.mem_cons_self) (by decide)
    · exact ascii_of_lowerChar hhere

theorem lowerAfter_of_ascii (h : ∀ c ∈ cs, c.toNat < 0x80) :
    lowerAfter before cs = cs.map Char.toLower := by
  induction cs generalizing before with
  | nil => rfl
  | cons c cs ih =>
    rw [List.forall_mem_cons] at h
    have hsigma : c ≠ 'Σ' := by
      rintro rfl
      exact absurd h.1 (by decide)
    rw [lowerAfter, if_neg hsigma, lowerChar_of_lt h.1, ih h.2]
    rfl

/-- Nothing but the letters of a word is lowered to the word, if it has only such letters
(`ownSmallLetters`). -/
theorem lower_eq_iff {word : List Char}
    (hword : ∀ d ∈ word, inSpans ownSmallLetters d.toNat = true) :
    lower cs = word ↔ cs.map Char.toLower = word := by
  constructor
  · rintro rfl
    exact (lowerAfter_of_ascii (ascii_of_lowerAfter hword)).symm
  · intro hletters
    have hascii : ∀ c ∈ cs, c.toNat < 0x80 := by
      intro c hc
      have hbound : (c.toLower.toNat < 0x80) = (c.toNat < 0x80) :=
        apply_toLower (f := fun c => c.toNat < 0x80) (by decide) c
      have hmem : c.toLower ∈ word := hletters ▸ List.mem_map_of_mem hc
      rw [← hbound]
      exact lt_of_ownSmallLetters (hword _ hmem)
    exact (lowerAfter_of_ascii hascii).trans hletters

end Gadfly.Text
