/-
  Gadfly.Proofs.Override

  What is left of settings after variables were looked at.

  `Settings.override` looks at eight variables one after the other, and the fourth of them can put
  an end to it, when it is to be a number and spells none (`Settings.Misspelt`). Settings are left
  as they are then, with the first three variables in force and nothing else: not even the number
  of earlier messages has changed (`Settings.Begun`). Otherwise all eight are in force
  (`Settings.Merged`). Either way a second look at the same variables finds each setting where the
  first has put it (`override_override`). And all that counts of a variable is its value if that
  is not blank (`Environment.AgreeOn`).

  Main definitions: `Environment.AgreeOn`, `Settings.Begun`, `Settings.Misspelt`.
  Main statements: `Settings.override_eq_error_iff`, `Settings.override_override`,
  `Settings.override_of_agreeOn`, `Settings.override_leaves`.
-/

import Gadfly.Proofs.Settings

namespace Gadfly

/-! ## Variables with the same meaning -/

namespace Environment

variable {env other : Environment} {name : String}

/-- A variable means the same twice: it has the same value, or else it is blank or not set both
times. -/
def AgreeOn (env other : Environment) (name : String) : Prop :=
  env name = other name ∨ (env.Leaves name ∧ other.Leaves name)

theorem agreeOn_iff : env.AgreeOn other name ↔ env.value? name = other.value? name := by
  constructor
  · rintro (hsame | ⟨hleaves, hother⟩)
    · exact value?_congr hsame
    · rw [value?_eq_none_iff.2 hleaves, value?_eq_none_iff.2 hother]
  · intro hsame
    rcases hvalue : env.value? name with _ | text
    · exact .inr ⟨value?_eq_none_iff.1 hvalue, value?_eq_none_iff.1 (hsame ▸ hvalue)⟩
    · have hsets := value?_eq_some_iff.1 hvalue
      have hother := value?_eq_some_iff.1 (hsame ▸ hvalue)
      exact .inl (hsets.1.trans hother.1.symm)

end Environment

namespace Settings

variable {env other : Environment} {name : String} {before after : Settings}

/-- Settings are made of the same variables (`AgreeOn`) in the same way by `override`. -/
theorem override_of_agreeOn (h : ∀ name ∈ variableNames, env.AgreeOn other name)
    (before : Settings) : before.override env = before.override other :=
  override_congr_value? (fun name hname => Environment.agreeOn_iff.1 (h name hname)) before

/-! ## Settings of which the overriding was broken off -/

/-- What variables make of settings when the number of earlier messages cannot be read: the two
models and the name have their variables, and everything else stays. -/
structure Begun (env : Environment) (before after : Settings) : Prop where
  cheapModel : Governed env "CHEAP_MODEL" Verbatim before.cheapModel after.cheapModel
  expensiveModel :
    Governed env "THINKING_MODEL" Verbatim before.expensiveModel after.expensiveModel
  botName : Governed env "SNOID_BOT_NAME" Verbatim before.botName after.botName
  historyCount : after.historyCount = before.historyCount
  logLevel : after.logLevel = before.logLevel
  openaiKey : after.openaiKey = before.openaiKey
  openaiBase : after.openaiBase = before.openaiBase
  discordToken : after.discordToken = before.discordToken
  truncateLength : after.truncateLength = before.truncateLength
  greetingTokens : after.greetingTokens = before.greetingTokens
  commandPrefix : after.commandPrefix = before.commandPrefix
  requestTimeout : after.requestTimeout = before.requestTimeout
  pricing : after.pricing = before.pricing

theorem begun_iff : Begun env before after ↔ after = before.overrideNames env := by
  constructor
  · rintro ⟨hcheap, hexpensive, hname, hcount, hlevel, hkey, hbase, htoken, hlength, htokens,
      hmark, htimeout, hpricing⟩
    rw [governed_verbatim_iff] at hcheap hexpensive hname
    rw [overrideNames, ← hcheap, ← hexpensive, ← hname, ← hcount, ← hlevel, ← hkey, ← hbase,
      ← htoken, ← hlength, ← htokens, ← hmark, ← htimeout, ← hpricing]
  · rintro rfl
    exact ⟨governed_verbatim_iff.2 rfl, governed_verbatim_iff.2 rfl, governed_verbatim_iff.2 rfl,
      rfl, rfl, rfl, rfl, rfl, rfl, rfl, rfl, rfl, rfl⟩

/-- The variable for the number of earlier messages is set and spells no number, and that is what
the fault says. -/
def Misspelt (env : Environment) (fault : SettingsFault) : Prop :=
  ∃ text, env.Sets "SNOID_HISTORY_COUNT" text ∧ (∀ n, ¬Spells text n) ∧
    fault = .invalid ("SNOID_HISTORY_COUNT must be a non-negative integer, got " ++
      Text.quoted text)

theorem overrideCount_eq_error_iff {fault : SettingsFault} :
    before.overrideCount env = .error fault ↔ Misspelt env fault := by
  have hspells (text : String) : count? text = none ↔ ∀ n, ¬Spells text n := by
    rw [Option.eq_none_iff_forall_ne_some]
    exact forall_congr' fun n => not_congr count?_eq_some_iff
  constructor
  · intro h
    rw [overrideCount] at h
    split at h
    · cases h
    · rename_i text hvalue
      split at h
      · cases h
      · rename_i hnone
        refine ⟨text, Environment.value?_eq_some_iff.1 hvalue, (hspells text).1 hnone, ?_⟩
        exact (Except.error.inj h).symm
  · rintro ⟨text, hsets, hnumberless, rfl⟩
    rw [overrideCount, Environment.value?_eq_some_iff.2 hsets]
    simp only [(hspells text).2 hnumberless]

theorem override_eq_error_iff {fault : SettingsFault} :
    before.override env = (after, .error fault) ↔ Misspelt env fault ∧ Begun env before after := by
  have hcount : (before.overrideNames env).overrideCount env = .error fault ↔
      Misspelt env fault := overrideCount_eq_error_iff
  rw [begun_iff, ← hcount, override]
  constructor
  · intro h
    split at h
    · cases (Prod.mk.inj h).2
    · rename_i found hfound
      obtain ⟨hafter, hfault⟩ := Prod.mk.inj h
      exact ⟨hfound.trans (congrArg Except.error (Except.error.inj hfault)), hafter.symm⟩
  · rintro ⟨hfault, rfl⟩
    rw [hfault]

/-! ## A second look -/

/-- A setting that has its variable in force has it still. -/
theorem Governed.again {α : Type} {means : String → α → Prop} {value value' : α}
    (h : Governed env name means value value') : Governed env name means value' value' :=
  h.imp_right fun hleft => ⟨hleft.1, rfl⟩

theorem Merged.again (h : Merged env before after) : Merged env after after where
  cheapModel := h.cheapModel.again
  expensiveModel := h.expensiveModel.again
  botName := h.botName.again
  historyCount := h.historyCount.again
  logLevel := h.logLevel.again
  openaiKey := h.openaiKey.again
  openaiBase := h.openaiBase.again
  discordToken := h.discordToken.again
  truncateLength := rfl
  greetingTokens := rfl
  commandPrefix := rfl
  requestTimeout := rfl
  pricing := rfl

theorem Begun.again (h : Begun env before after) : Begun env after after where
  cheapModel := h.cheapModel.again
  expensiveModel := h.expensiveModel.again
  botName := h.botName.again
  historyCount := rfl
  logLevel := rfl
  openaiKey := rfl
  openaiBase := rfl
  discordToken := rfl
  truncateLength := rfl
  greetingTokens := rfl
  commandPrefix := rfl
  requestTimeout := rfl
  pricing := rfl

/-- The same variables change nothing more, and come to the same end: `override` can be repeated. -/
theorem override_override (env : Environment) (before : Settings) :
    (before.override env).1.override env = before.override env := by
  rcases hoverride : before.override env with ⟨after, fault | _⟩
  · obtain ⟨hmisspelt, hbegun⟩ := override_eq_error_iff.1 hoverride
    exact override_eq_error_iff.2 ⟨hmisspelt, hbegun.again⟩
  · exact override_eq_ok_iff.2 (override_eq_ok_iff.1 hoverride).again

/-! ## What is left -/

theorem override_fails_iff (env : Environment) (before : Settings) :
    (∃ fault, (before.override env).2 = .error fault) ↔
      ∃ text, env.Sets "SNOID_HISTORY_COUNT" text ∧ ∀ n, ¬Spells text n := by
  constructor
  · rintro ⟨fault, hfault⟩
    have hoverride : before.override env = ((before.override env).1, .error fault) :=
      Prod.ext rfl hfault
    obtain ⟨⟨text, hsets, hnumberless, -⟩, -⟩ := override_eq_error_iff.1 hoverride
    exact ⟨text, hsets, hnumberless⟩
  · rintro ⟨text, hsets, hnumberless⟩
    have hoverride := override_eq_error_iff.2
      ⟨⟨text, hsets, hnumberless, rfl⟩, begun_iff.2 (rfl : _ = before.overrideNames env)⟩
    exact ⟨_, congrArg Prod.snd hoverride⟩

/-- What variables leave of settings (`override`). Only the number of earlier messages can go wrong,
and does when it is set and is not, blanks apart, the digits of a number of 64 bits after an
optional plus sign (`Spells`). Then the variables before it are in force and nothing else has
changed (`Begun`); if all goes well, every variable that is set is in force and nothing else has
changed (`Merged`). The same variables again come to the same end and change nothing more, and so do
others that are blank or not set where these are, and the same elsewhere (`AgreeOn`). -/
theorem override_leaves (env : Environment) (before : Settings) :
    ((∃ fault, (before.override env).2 = .error fault) ↔
      ∃ text, env.Sets "SNOID_HISTORY_COUNT" text ∧ ∀ n, ¬Spells text n) ∧
    (∀ after fault, before.override env = (after, .error fault) →
      Begun env before after ∧ Misspelt env fault) ∧
    (∀ after, before.override env = (after, .ok ()) →
      Merged env before after ∧ after.override env = (after, .ok ())) ∧
    (before.override env).1.override env = before.override env ∧
    ∀ other : Environment, (∀ name ∈ variableNames, env.AgreeOn other name) →
      before.override env = before.override other := by
  refine ⟨override_fails_iff env before, ?_, ?_, override_override env before, ?_⟩
  · intro after fault hoverride
    exact (override_eq_error_iff.1 hoverride).symm
  · intro after hoverride
    have hmerged := override_eq_ok_iff.1 hoverride
    exact ⟨hmerged, override_eq_ok_iff.2 hmerged.again⟩
  · intro other hagree
    exact override_of_agreeOn hagree before

section Shell

/-- An environment in which three variables are set, among them that for the number of earlier
messages. -/
def shell (count : String) (botName : Option String) : Environment := fun name =>
  if name = "CHEAP_MODEL" then some "small"
  else if name = "SNOID_HISTORY_COUNT" then some count
  else if name = "SNOID_LOG_LEVEL" then some "debug"
  else if name = "SNOID_BOT_NAME" then botName
  else none

/-- One more than fits into 64 bits. -/
def overflowing : Environment :=
  shell " +18446744073709551616 " none

/-- The most that fits into 64 bits, with zeros in front. -/
def brimful (botName : Option String) : Environment :=
  shell " +0018446744073709551615\t" botName

theorem override_leaves_of_shells :
    ((standard.override overflowing).2 = .error (.invalid
        "SNOID_HISTORY_COUNT must be a non-negative integer, got \" +18446744073709551616 \"") ∧
      Begun overflowing standard (standard.override overflowing).1 ∧
      (standard.override overflowing).1.cheapModel = "small" ∧
      (standard.override overflowing).1.logLevel = "info") ∧
    ((standard.override (brimful none)).2 = .ok () ∧
      Merged (brimful none) standard (standard.override (brimful none)).1 ∧
      (standard.override (brimful none)).1.historyCount = 2 ^ 64 - 1 ∧
      (standard.override (brimful none)).1.logLevel = "debug") ∧
    standard.override (brimful none) = standard.override (brimful (some " \n")) := by
  have herror : (standard.override overflowing).2 = .error (.invalid
      "SNOID_HISTORY_COUNT must be a non-negative integer, got \" +18446744073709551616 \"") := by
    decide +kernel
  have hok : (standard.override (brimful none)).2 = .ok () := by decide +kernel
  have hagree : ∀ name ∈ variableNames, (brimful none).AgreeOn (brimful (some " \n")) name := by
    intro name hname
    by_cases hbot : name = "SNOID_BOT_NAME"
    · subst hbot
      have hnone : brimful none "SNOID_BOT_NAME" = none := by decide
      have hblank : brimful (some " \n") "SNOID_BOT_NAME" = some " \n" := by decide
      refine .inr ⟨fun text htext => ?_, fun text htext => ?_⟩
      · rw [hnone] at htext
        cases htext
      · obtain rfl : " \n" = text := Option.some.inj (hblank.symm.trans htext)
        decide
    · left
      simp only [brimful, shell, hbot, if_false]
  obtain ⟨-, hfailed, -, -, -⟩ := override_leaves overflowing standard
  obtain ⟨-, -, hsucceeded, -, hsame⟩ := override_leaves (brimful none) standard
  have hbegun := (hfailed _ _ (Prod.ext rfl herror)).1
  have hmerged := (hsucceeded _ (Prod.ext rfl hok)).1
  exact ⟨⟨herror, hbegun, by decide +kernel, by decide +kernel⟩,
    ⟨hok, hmerged, by decide +kernel, by decide +kernel⟩, hsame _ hagree⟩

end Shell

end Settings

end Gadfly
