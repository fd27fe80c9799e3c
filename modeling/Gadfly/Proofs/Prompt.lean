/-
  Gadfly.Proofs.Prompt

  Telling the questions to the models apart.

  The cheap and the expensive model may be one and the same, so only the prompt of a question says
  what it is for. All prompts about a transcript (`Prompt.about`) end with it; the words right
  before it differ.

  Main definitions: `Prompt.about`.
  Main statements: `exists_eq_append_of_mem_about`, `gate_ne_critique`, `gate_ne_presence`,
  `critique_ne_presence`, `critique_inj`.
-/

import Gadfly.Prompt

namespace Gadfly.Prompt

/-- All that the models are asked about a transcript: `gate`, both forms of `critique`, and
`presence`. -/
def about (persona transcript : String) : List String :=
  [gate transcript, critique persona transcript true, critique persona transcript false,
    presence persona transcript]

/-- Every prompt ends with the transcript (`transcriptPart`). -/
theorem exists_eq_append_of_mem_about {persona transcript prompt : String}
    (h : prompt ∈ about persona transcript) :
    ∃ front, prompt = front ++ transcriptPart transcript := by
  simp only [about, List.mem_cons, List.not_mem_nil, or_false] at h
  rcases h with rfl | rfl | rfl | rfl <;> exact ⟨_, rfl⟩

/-- Texts with different endings of one length differ. -/
theorem append_ne_append {first second ending other : String}
    (hlength : ending.length = other.length) (hne : ending ≠ other) :
    first ++ ending ≠ second ++ other := by
  intro h
  have hlists := congrArg String.toList h
  rw [String.toList_append, String.toList_append] at hlists
  have hendings := (List.append_inj' hlists hlength).2
  exact hne (String.toList_inj.1 hendings)

/-- Texts with different beginnings of one length differ. -/
theorem append_ne_append_of_start {start other first second : String}
    (hlength : start.length = other.length) (hne : start ≠ other) :
    start ++ first ≠ other ++ second := by
  intro h
  have hlists := congrArg String.toList h
  rw [String.toList_append, String.toList_append] at hlists
  have hstarts := (List.append_inj hlists hlength).1
  exact hne (String.toList_inj.1 hstarts)

/-- What the gate is told to answer ends unlike anything that the other questions end with. -/
theorem gate_ending (first second : String) {ending : String}
    (hlength : ending.length = 4) (hne : ending ≠ "ise.") :
    first ++ "and exactly 'no' otherwise." ≠ second ++ ending := by
  have hsplit : "and exactly 'no' otherwise." = "and exactly 'no' otherw" ++ "ise." := by
    decide +kernel
  rw [hsplit, ← String.append_assoc]
  exact append_ne_append hlength.symm hne.symm

/-- The gate's question is not one for a critique, whatever the bot is called. -/
theorem gate_ne_critique (persona transcript : String) (forced : Bool) :
    gate transcript ≠ critique persona transcript forced := by
  intro h
  unfold gate critique at h
  replace h := (String.append_left_inj _).1 h
  -- Either way the model is told something else in the last words before the transcript.
  cases forced with
  | false =>
    have hsplit : "\" and nothing else." = "\" and nothing e" ++ "lse." := by decide +kernel
    simp only [escapeClause, Bool.false_eq_true, if_false, hsplit, ← String.append_assoc] at h
    exact gate_ending _ _ rfl (by decide) h
  | true =>
    have hsplit : sentinel ++ "\"." = "<no response necessar" ++ "y>\"." := by decide +kernel
    simp only [escapeClause, if_true, String.append_assoc, hsplit] at h
    simp only [← String.append_assoc] at h
    exact gate_ending _ _ rfl (by decide) h

/-- The gate's question is not one for a greeting, whatever the bot is called. -/
theorem gate_ne_presence (persona transcript : String) :
    gate transcript ≠ presence persona transcript := by
  intro h
  unfold gate presence at h
  replace h := (String.append_left_inj _).1 h
  have hsplit : "Acknowledge them in one short, in-character sentence." =
      "Acknowledge them in one short, in-character sente" ++ "nce." := by decide +kernel
  rw [hsplit, ← String.append_assoc] at h
  exact gate_ending _ _ rfl (by decide) h

/-- A critique is asked for in other words than an answer to a greeting. -/
theorem critique_ne_presence (persona transcript : String) (forced : Bool) :
    critique persona transcript forced ≠ presence persona transcript := by
  intro h
  unfold critique presence at h
  -- Who the model is to be is said in the same words; the next ones begin with other letters.
  simp only [String.append_assoc, String.append_right_inj] at h
  have hpoint : "Point out factual inaccuracies in the final line of the transcript below; " =
      "P" ++ "oint out factual inaccuracies in the final line of the transcript below; " := by
    decide +kernel
  have hsomeone : "Someone in the chat just greeted you by name. " =
      "S" ++ "omeone in the chat just greeted you by name. " := by
    decide +kernel
  rw [hpoint, hsomeone, String.append_assoc, String.append_assoc] at h
  exact append_ne_append_of_start (by decide) (by decide) h

/-- Whether the model may stay silent can be told from the prompt. -/
theorem critique_inj {persona transcript : String} {forced forced' : Bool}
    (h : critique persona transcript forced = critique persona transcript forced') :
    forced = forced' := by
  have hdiffer : escapeClause true ≠ escapeClause false := by decide
  unfold critique at h
  rw [String.append_left_inj, String.append_right_inj] at h
  cases forced with
  | false =>
    cases forced' with
    | false => rfl
    | true => exact absurd h.symm hdiffer
  | true =>
    cases forced' with
    | false => exact absurd h hdiffer
    | true => rfl

end Gadfly.Prompt
