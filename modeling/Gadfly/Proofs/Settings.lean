/-
  Gadfly.Proofs.Settings

  Where the settings in force come from.

  Three layers make up a setting: what a variable holds, unless it holds nothing but blanks; else
  what the file says; else the standard. The layers are told one by one here, as relations
  between a file and the settings that it describes (`SettingsFile.Holds`) and between settings
  and those that variables make of them (`Settings.Merged`). The rules are checked only at the
  end, of all layers together (`Settings.Proper`).

  Main definitions: `Environment.Sets`, `Environment.Leaves`, `SettingsFile.Holds`,
  `Settings.Merged`, `Settings.Proper`, `Settings.Spells`, `Settings.variableNames`.
  Main statements: `Settings.ofFile_eq_ok_iff`, `Settings.override_eq_ok_iff`,
  `Settings.check_eq_ok_iff`, `Settings.settings_in_force`.
-/

import Mathlib.Algebra.Ring.Nat
import Mathlib.Data.Option.Basic
import Gadfly.Settings.Check

namespace Gadfly

/-! ## Variables -/

namespace Environment

/-- A variable is set, to something other than blanks. -/
def Sets (env : Environment) (name text : String) : Prop :=
  env name = some text ∧ text.allBlank = false

/-- A variable is not set, or only to blanks. -/
def Leaves (env : Environment) (name : String) : Prop :=
  ∀ text, env name = some text → text.allBlank = true

variable {env other : Environment} {name text : String}

theorem value?_eq_some_iff : env.value? name = some text ↔ env.Sets name text := by
  rw [value?, Option.filter_eq_some_iff, Sets, Bool.not_eq_true']

theorem value?_eq_none_iff : env.value? name = none ↔ env.Leaves name := by
  rw [value?, Option.filter_eq_none_iff, Leaves]
  simp only [Bool.not_eq_true', Bool.not_eq_false]

theorem value?_congr (h : env name = other name) : env.value? name = other.value? name := by
  rw [value?, value?, h]

end Environment

namespace Settings

/-- A setting with a variable: what the variable says when it is set, and else what it was. -/
def Governed {α : Type} (env : Environment) (name : String) (means : String → α → Prop)
    (before after : α) : Prop :=
  (∃ text, env.Sets name text ∧ means text after) ∨ (env.Leaves name ∧ after = before)

/-- A text as it is. -/
def Verbatim (text value : String) : Prop := value = text

/-- A text as it is, where there may be none. -/
def VerbatimIf (text : String) (value : Option String) : Prop := value = some text

/-- Blanks apart, a text is the decimal digits of a number of 64 bits, perhaps after a plus
sign. -/
def Spells (text : String) (n : Nat) : Prop :=
  ∃ digits, (Text.trim text.toList = digits ∨ Text.trim text.toList = '+' :: digits) ∧
    digits ≠ [] ∧ (∀ c ∈ digits, c.isDigit = true) ∧ Decimal.digitsValue digits = n ∧ n < 2 ^ 64

variable {env other : Environment} {name : String}

theorem governed_iff {α : Type} {means : String → α → Prop} {before after : α} :
    Governed env name means before after ↔
      match env.value? name with
      | some text => means text after
      | none => after = before := by
  rcases hvalue : env.value? name with _ | text
  · have hleaves := Environment.value?_eq_none_iff.1 hvalue
    constructor
    · rintro (⟨text, hsets, -⟩ | ⟨-, hsame⟩)
      · rw [Environment.value?_eq_some_iff.2 hsets] at hvalue
        cases hvalue
      · exact hsame
    · intro hsame
      exact .inr ⟨hleaves, hsame⟩
  · have hsets := Environment.value?_eq_some_iff.1 hvalue
    constructor
    · rintro (⟨other, hother, hmeans⟩ | ⟨hleaves, -⟩)
      · rw [Environment.value?_eq_some_iff.2 hother] at hvalue
        obtain rfl : other = text := Option.some.inj hvalue
        exact hmeans
      · rw [Environment.value?_eq_none_iff.2 hleaves] at hvalue
        cases hvalue
    · intro hmeans
      exact .inl ⟨text, hsets, hmeans⟩

theorem governed_verbatim_iff {before after : String} :
    Governed env name Verbatim before after ↔ after = env.getD name before := by
  rw [governed_iff, Environment.getD]
  cases env.value? name <;> exact Iff.rfl

theorem governed_verbatimIf_iff {before after : Option String} :
    Governed env name VerbatimIf before after ↔ after = env.orElse name before := by
  rw [governed_iff, Environment.orElse]
  cases env.value? name <;> exact Iff.rfl

/-! ## The number of earlier messages -/

/-- The number that a text spells when it is made of digits and nothing else. -/
def digitsOnly? (body : List Char) : Option Nat :=
  if body.isEmpty || !body.all Char.isDigit then none else some (Decimal.digitsValue body)

theorem digitsOnly?_eq_some_iff {body : List Char} {n : Nat} :
    digitsOnly? body = some n ↔
      body ≠ [] ∧ (∀ c ∈ body, c.isDigit = true) ∧ Decimal.digitsValue body = n := by
  rw [digitsOnly?]
  split
  · rename_i hbad
    rw [Bool.or_eq_true, List.isEmpty_iff, Bool.not_eq_true', List.all_eq_false] at hbad
    constructor
    · intro hnone
      cases hnone
    · rintro ⟨hne, hdigits, -⟩
      obtain hnil | ⟨c, hc, hnot⟩ := hbad
      · exact absurd hnil hne
      · exact absurd (hdigits c hc) hnot
  · rename_i hgood
    rw [Bool.or_eq_true, not_or, List.isEmpty_iff, Bool.not_eq_true', Bool.not_eq_false,
      List.all_eq_true] at hgood
    rw [Option.some.injEq]
    exact ⟨fun hvalue => ⟨hgood.1, hgood.2, hvalue⟩, fun h => h.2.2⟩

/-- A natural number is read exactly from its digits, perhaps after a plus sign. -/
theorem readNat?_eq_some_iff {cs : List Char} {n : Nat} :
    Decimal.readNat? cs = some n ↔
      ∃ digits, (cs = digits ∨ cs = '+' :: digits) ∧ digits ≠ [] ∧
        (∀ c ∈ digits, c.isDigit = true) ∧ Decimal.digitsValue digits = n := by
  by_cases hplus : ∃ rest, cs = '+' :: rest
  · obtain ⟨rest, rfl⟩ := hplus
    have hread : Decimal.readNat? ('+' :: rest) = digitsOnly? rest := rfl
    rw [hread, digitsOnly?_eq_some_iff]
    constructor
    · intro h
      exact ⟨rest, .inr rfl, h⟩
    · rintro ⟨digits, rfl | hsame, h⟩
      · -- A plus sign is no digit.
        cases h.2.1 '+' List.mem_cons_self
      · exact (List.cons.inj hsame).2 ▸ h
  · have hread : Decimal.readNat? cs = digitsOnly? cs := by
      rw [Decimal.readNat?]
      · rfl
      · exact fun rest hrest => hplus ⟨rest, hrest⟩
    rw [hread, digitsOnly?_eq_some_iff]
    constructor
    · intro h
      exact ⟨cs, .inl rfl, h⟩
    · rintro ⟨digits, rfl | hsame, h⟩
      · exact h
      · exact absurd ⟨digits, hsame⟩ hplus

theorem count?_eq_some_iff {text : String} {n : Nat} : count? text = some n ↔ Spells text n := by
  have hbound : countBound = 2 ^ 64 := by decide
  rw [count?, hbound]
  constructor
  · intro h
    split at h
    · rename_i m hread
      split at h
      · rename_i hlt
        obtain rfl : m = n := Option.some.inj h
        obtain ⟨digits, htext, hne, hdigits, hvalue⟩ := readNat?_eq_some_iff.1 hread
        exact ⟨digits, htext, hne, hdigits, hvalue, hlt⟩
      · cases h
    · cases h
  · rintro ⟨digits, htext, hne, hdigits, hvalue, hlt⟩
    rw [readNat?_eq_some_iff.2 ⟨digits, htext, hne, hdigits, hvalue⟩]
    exact if_pos hlt

/-- The number of earlier messages is overridden, or kept, or the variable spells no number. -/
theorem overrideCount_eq_ok_iff {before after : Settings} :
    before.overrideCount env = .ok after ↔
      Governed env "SNOID_HISTORY_COUNT" Spells before.historyCount after.historyCount ∧
        after = { before with historyCount := after.historyCount } := by
  rw [governed_iff]
  rcases hvalue : env.value? "SNOID_HISTORY_COUNT" with _ | text
  · simp only [overrideCount, hvalue]
    constructor
    · rintro ⟨⟩
      exact ⟨rfl, rfl⟩
    · rintro ⟨hcount, hsame⟩
      rw [hcount] at hsame
      exact congrArg Except.ok hsame.symm
  · simp only [overrideCount, hvalue]
    rw [← count?_eq_some_iff]
    rcases hcount : count? text with _ | n
    · constructor
      · intro h
        cases h
      · rintro ⟨h, -⟩
        cases h
    · constructor
      · rintro ⟨⟩
        exact ⟨rfl, rfl⟩
      · rintro ⟨hn, hsame⟩
        rw [← Option.some.inj hn] at hsame
        exact congrArg Except.ok hsame.symm

/-! ## All variables -/

/-- The variables that `override` settings. -/
def variableNames : List String :=
  ["CHEAP_MODEL", "THINKING_MODEL", "SNOID_BOT_NAME", "SNOID_HISTORY_COUNT", "SNOID_LOG_LEVEL",
    "OPENAI_API_KEY", "OPENAI_BASE_URL", "DISCORD_BOT_TOKEN"]

/-- What variables make of settings: eight of them have a variable, and the others stay. -/
structure Merged (env : Environment) (before after : Settings) : Prop where
  cheapModel : Governed env "CHEAP_MODEL" Verbatim before.cheapModel after.cheapModel
  expensiveModel :
    Governed env "THINKING_MODEL" Verbatim before.expensiveModel after.expensiveModel
  botName : Governed env "SNOID_BOT_NAME" Verbatim before.botName after.botName
  historyCount : Governed env "SNOID_HISTORY_COUNT" Spells before.historyCount after.historyCount
  logLevel : Governed env "SNOID_LOG_LEVEL" Verbatim before.logLevel after.logLevel
  openaiKey : Governed env "OPENAI_API_KEY" VerbatimIf before.openaiKey after.openaiKey
  openaiBase : Governed env "OPENAI_BASE_URL" Verbatim before.openaiBase after.openaiBase
  discordToken :
    Governed env "DISCORD_BOT_TOKEN" VerbatimIf before.discordToken after.discordToken
  truncateLength : after.truncateLength = before.truncateLength
  greetingTokens : after.greetingTokens = before.greetingTokens
  commandPrefix : after.commandPrefix = before.commandPrefix
  requestTimeout : after.requestTimeout = before.requestTimeout
  pricing : after.pricing = before.pricing

/-- Apart from the number of earlier messages, variables leave no choice. -/
theorem merged_iff {before after : Settings} :
    Merged env before after ↔
      Governed env "SNOID_HISTORY_COUNT" Spells before.historyCount after.historyCount ∧
        after = overrideAccess env
          { before.overrideNames env with historyCount := after.historyCount } := by
  constructor
  · rintro ⟨hcheap, hexpensive, hname, hcount, hlevel, hkey, hbase, htoken, hlength, htokens,
      hmark, htimeout, hpricing⟩
    refine ⟨hcount, ?_⟩
    rw [governed_verbatim_iff] at hcheap hexpensive hname hlevel hbase
    rw [governed_verbatimIf_iff] at hkey htoken
    rw [overrideAccess, overrideNames, ← hcheap, ← hexpensive, ← hname, ← hlevel, ← hbase, ← hkey,
      ← htoken, ← hlength, ← htokens, ← hmark, ← htimeout, ← hpricing]
  · rintro ⟨hcount, hafter⟩
    rw [hafter] at hcount ⊢
    exact ⟨governed_verbatim_iff.2 rfl, governed_verbatim_iff.2 rfl, governed_verbatim_iff.2 rfl,
      hcount, governed_verbatim_iff.2 rfl, governed_verbatimIf_iff.2 rfl,
      governed_verbatim_iff.2 rfl, governed_verbatimIf_iff.2 rfl, rfl, rfl, rfl, rfl, rfl⟩

theorem override_eq_ok_iff {before after : Settings} :
    before.override env = (after, .ok ()) ↔ Merged env before after := by
  rw [merged_iff, override]
  constructor
  · intro h
    split at h
    · rename_i counted hcounted
      obtain ⟨hcount, hsame⟩ := overrideCount_eq_ok_iff.1 hcounted
      obtain rfl : counted.overrideAccess env = after := (Prod.mk.inj h).1
      exact ⟨hcount, congrArg (overrideAccess env) hsame⟩
    · cases (Prod.mk.inj h).2
  · rintro ⟨hcount, hafter⟩
    have hcounted : (before.overrideNames env).overrideCount env =
        .ok { before.overrideNames env with historyCount := after.historyCount } :=
      overrideCount_eq_ok_iff.2 ⟨hcount, rfl⟩
    rw [hcounted]
    exact congrArg (·, Except.ok ()) hafter.symm

/-- Variables make something of settings, and just one thing, exactly if the number of earlier
messages is not set or spells a number. -/
theorem existsUnique_merged_iff (before : Settings) :
    (∃! after, Merged env before after) ↔
      env.Leaves "SNOID_HISTORY_COUNT" ∨
        ∃ text n, env.Sets "SNOID_HISTORY_COUNT" text ∧ Spells text n := by
  constructor
  · rintro ⟨after, hmerged, -⟩
    obtain ⟨text, hsets, hspells⟩ | ⟨hleaves, -⟩ := hmerged.historyCount
    · exact .inr ⟨text, _, hsets, hspells⟩
    · exact .inl hleaves
  · intro h
    have hcount : ∃ n, Governed env "SNOID_HISTORY_COUNT" Spells before.historyCount n := by
      obtain hleaves | ⟨text, n, hsets, hspells⟩ := h
      · exact ⟨before.historyCount, .inr ⟨hleaves, rfl⟩⟩
      · exact ⟨n, .inl ⟨text, hsets, hspells⟩⟩
    obtain ⟨n, hn⟩ := hcount
    have hmerged : Merged env before
        (overrideAccess env { before.overrideNames env with historyCount := n }) :=
      merged_iff.2 ⟨hn, rfl⟩
    refine ⟨_, hmerged, fun after hafter => ?_⟩
    -- Both are what the settings become.
    have hsame := (override_eq_ok_iff.2 hafter).symm.trans (override_eq_ok_iff.2 hmerged)
    exact (Prod.mk.inj hsame).1

/-- What counts of a variable is its value if that is not blank. -/
theorem override_congr_value? (h : ∀ name ∈ variableNames, env.value? name = other.value? name)
    (before : Settings) : before.override env = before.override other := by
  simp only [variableNames, List.forall_mem_cons] at h
  obtain ⟨hcheap, hexpensive, hname, hcount, hlevel, hkey, hbase, htoken, -⟩ := h
  have hnames : before.overrideNames env = before.overrideNames other := by
    simp only [overrideNames, Environment.getD, hcheap, hexpensive, hname]
  have hcounted : ∀ settings : Settings,
      settings.overrideCount env = settings.overrideCount other := by
    intro settings
    rw [overrideCount, overrideCount, hcount]
  have haccess : ∀ settings : Settings,
      settings.overrideAccess env = settings.overrideAccess other := by
    intro settings
    simp only [overrideAccess, Environment.getD, Environment.orElse, hlevel, hkey, hbase, htoken]
  rw [override, override, hnames, hcounted]
  simp only [haccess]

/-- Variables other than the eight have no part in it. -/
theorem override_congr (h : ∀ name ∈ variableNames, env name = other name) (before : Settings) :
    before.override env = before.override other :=
  override_congr_value? (fun name hname => Environment.value?_congr (h name hname)) before

/-! ## The file -/

/-- A setting in a document: what it says there, and else the standard. -/
def Mentioned {α : Type} (members : Toml.Members) (name : String) (read : Toml → Option α)
    (absent value : α) : Prop :=
  (∃ written, Toml.find? members name = some written ∧ read written = some value) ∨
    (Toml.find? members name = none ∧ value = absent)

theorem entry_eq_some_iff {α : Type} {members : Toml.Members} {name : String}
    {read : Toml → Option α} {absent value : α} :
    entry members name absent read = some value ↔ Mentioned members name read absent value := by
  rw [entry, Mentioned]
  rcases Toml.find? members name with _ | written
  · simp [eq_comm]
  · simp

/-- The settings that a document describes. Each is of its kind, or not mentioned. -/
structure Described (members : Toml.Members) (settings : Settings) : Prop where
  cheapModel : Mentioned members "cheap_model" text? standard.cheapModel settings.cheapModel
  expensiveModel :
    Mentioned members "expensive_model" text? standard.expensiveModel settings.expensiveModel
  historyCount :
    Mentioned members "history_count" natural? standard.historyCount settings.historyCount
  truncateLength :
    Mentioned members "truncate_length" natural? standard.truncateLength settings.truncateLength
  botName : Mentioned members "bot_name" text? standard.botName settings.botName
  greetingTokens :
    Mentioned members "greeting_tokens" texts? standard.greetingTokens settings.greetingTokens
  logLevel : Mentioned members "log_level" text? standard.logLevel settings.logLevel
  commandPrefix :
    Mentioned members "command_prefix" text? standard.commandPrefix settings.commandPrefix
  requestTimeout : Mentioned members "request_timeout_secs" natural? standard.requestTimeout
    settings.requestTimeout
  openaiKey : Mentioned members "openai_api_key" (fun v => (text? v).map some) standard.openaiKey
    settings.openaiKey
  openaiBase : Mentioned members "openai_base_url" text? standard.openaiBase settings.openaiBase
  discordToken : Mentioned members "discord_bot_token" (fun v => (text? v).map some)
    standard.discordToken settings.discordToken
  pricing : Mentioned members "pricing" pricing? standard.pricing settings.pricing

theorem ofToml?_eq_some_iff {members : Toml.Members} {settings : Settings} :
    ofToml? members = some settings ↔ Described members settings := by
  constructor
  · intro h
    -- One setting after the other, in the order of the definition.
    obtain ⟨_, hcheap, h⟩ := Option.bind_eq_some_iff.1 h
    obtain ⟨_, hexpensive, h⟩ := Option.bind_eq_some_iff.1 h
    obtain ⟨_, hcount, h⟩ := Option.bind_eq_some_iff.1 h
    obtain ⟨_, hlength, h⟩ := Option.bind_eq_some_iff.1 h
    obtain ⟨_, hname, h⟩ := Option.bind_eq_some_iff.1 h
    obtain ⟨_, htokens, h⟩ := Option.bind_eq_some_iff.1 h
    obtain ⟨_, hlevel, h⟩ := Option.bind_eq_some_iff.1 h
    obtain ⟨_, hmark, h⟩ := Option.bind_eq_some_iff.1 h
    obtain ⟨_, htimeout, h⟩ := Option.bind_eq_some_iff.1 h
    obtain ⟨_, hkey, h⟩ := Option.bind_eq_some_iff.1 h
    obtain ⟨_, hbase, h⟩ := Option.bind_eq_some_iff.1 h
    obtain ⟨_, htoken, h⟩ := Option.bind_eq_some_iff.1 h
    obtain ⟨_, hpricing, h⟩ := Option.bind_eq_some_iff.1 h
    obtain rfl := Option.some.inj h
    constructor <;> apply entry_eq_some_iff.1 <;> assumption
  · intro h
    rw [ofToml?, entry_eq_some_iff.2 h.cheapModel, entry_eq_some_iff.2 h.expensiveModel,
      entry_eq_some_iff.2 h.historyCount, entry_eq_some_iff.2 h.truncateLength,
      entry_eq_some_iff.2 h.botName, entry_eq_some_iff.2 h.greetingTokens,
      entry_eq_some_iff.2 h.logLevel, entry_eq_some_iff.2 h.commandPrefix,
      entry_eq_some_iff.2 h.requestTimeout, entry_eq_some_iff.2 h.openaiKey,
      entry_eq_some_iff.2 h.openaiBase, entry_eq_some_iff.2 h.discordToken,
      entry_eq_some_iff.2 h.pricing]
    rfl

end Settings

/-- The settings that a file describes: the standard ones when there is no file, and else those
of the document that it holds. -/
def SettingsFile.Holds (file : SettingsFile) (settings : Settings) : Prop :=
  match file with
  | .missing => settings = .standard
  | .blocked _ => False
  | .content bytes => ∃ text members, Text.Utf8.decode bytes = .ok text ∧
      Toml.read? text = some members ∧ settings.Described members

namespace Settings

theorem ofFile_eq_ok_iff {file : SettingsFile} {settings : Settings} :
    ofFile file = .ok settings ↔ file.Holds settings := by
  -- A missing file holds the standard settings, and a blocked one holds none.
  cases file with
  | missing =>
    rw [ofFile, Except.ok.injEq, eq_comm]
    rfl
  | blocked reason =>
    constructor
    · intro h
      cases h
    · intro h
      cases h
  | content bytes =>
    rcases hdecode : Text.Utf8.decode bytes with fault | text
    · simp only [ofFile, SettingsFile.Holds, hdecode]
      constructor
      · intro h
        cases h
      · rintro ⟨text, members, hother, -⟩
        cases hother
    · simp only [ofFile, SettingsFile.Holds, hdecode]
      constructor
      · intro h
        split at h
        · rename_i found hfound
          obtain rfl : found = settings := Except.ok.inj h
          obtain ⟨members, hread, hsettings⟩ := Option.bind_eq_some_iff.1 hfound
          exact ⟨text, members, rfl, hread, ofToml?_eq_some_iff.1 hsettings⟩
        · cases h
      · rintro ⟨text', members, hsame, hread, hdescribed⟩
        obtain rfl : text = text' := Except.ok.inj hsame
        rw [hread, Option.bind_some, ofToml?_eq_some_iff.2 hdescribed]

/-! ## The rules -/

/-- Settings that keep the rules. -/
structure Proper (settings : Settings) : Prop where
  cheapModel : settings.cheapModel.allBlank = false
  expensiveModel : settings.expensiveModel.allBlank = false
  botName : settings.botName.allBlank = false
  greetingTokens : ∃ token ∈ settings.greetingTokens, token.allBlank = false
  truncateLength : 0 < settings.truncateLength
  historyCount : settings.historyCount ≤ 100
  pricing : ∀ entry ∈ settings.pricing, ¬entry.2.input < 0.0 ∧ ¬entry.2.output < 0.0

theorem ite_error_eq_ok_iff {p : Prop} [Decidable p] {fault : SettingsFault}
    {rest : Except SettingsFault Unit} :
    (if p then .error fault else rest) = .ok () ↔ ¬p ∧ rest = .ok () := by
  by_cases hp : p
  · rw [if_pos hp]
    exact ⟨nofun, fun h => absurd hp h.1⟩
  · rw [if_neg hp]
    exact ⟨fun h => ⟨hp, h⟩, fun h => h.2⟩

theorem negativelyPriced_eq_nil_iff {settings : Settings} :
    settings.negativelyPriced = [] ↔
      ∀ entry ∈ settings.pricing, ¬entry.2.input < 0.0 ∧ ¬entry.2.output < 0.0 := by
  rw [negativelyPriced, List.map_eq_nil_iff, List.filter_eq_nil_iff]
  simp only [Bool.or_eq_true, decide_eq_true_eq, not_or]

/-- A `check` finds nothing exactly if all rules are kept (`Proper`). -/
theorem check_eq_ok_iff {settings : Settings} : settings.check = .ok () ↔ settings.Proper := by
  rw [check, ite_error_eq_ok_iff, ite_error_eq_ok_iff, ite_error_eq_ok_iff, ite_error_eq_ok_iff,
    ite_error_eq_ok_iff, maxHistoryCount, Nat.not_lt, Bool.or_eq_true, not_or, Bool.not_eq_true,
    Bool.not_eq_true, Bool.not_eq_true, Bool.not_eq_true, List.all_eq_false]
  simp only [Bool.not_eq_true]
  rcases hnegative : settings.negativelyPriced with _ | ⟨name, rest⟩
  · have hpricing := negativelyPriced_eq_nil_iff.1 hnegative
    constructor
    · rintro ⟨⟨hcheap, hexpensive⟩, hname, htokens, hlength, hcount, -⟩
      exact ⟨hcheap, hexpensive, hname, htokens, Nat.pos_of_ne_zero hlength, hcount, hpricing⟩
    · rintro ⟨hcheap, hexpensive, hname, htokens, hlength, hcount, -⟩
      exact ⟨⟨hcheap, hexpensive⟩, hname, htokens, Nat.ne_of_gt hlength, hcount, rfl⟩
  · constructor
    · rintro ⟨-, -, -, -, -, h⟩
      cases h
    · intro h
      rw [negativelyPriced_eq_nil_iff.2 h.pricing] at hnegative
      cases hnegative

/-! ## The settings in force -/

theorem load_eq_ok_iff {file : SettingsFile} {settings : Settings} :
    load file env = .ok settings ↔
      ∃ written, ofFile file = .ok written ∧ written.override env = (settings, .ok ()) ∧
        settings.check = .ok () := by
  constructor
  · intro h
    cases hfile : ofFile file with
    | error fault =>
      rw [load, hfile] at h
      cases h
    | ok written =>
      rcases hover : written.override env with ⟨merged, result⟩
      simp only [load, hfile, hover, bind, Except.bind] at h
      cases result with
      | error fault => cases h
      | ok _ =>
        cases hcheck : merged.check with
        | error fault =>
          rw [hcheck] at h
          cases h
        | ok _ =>
          rw [hcheck] at h
          obtain rfl : merged = settings := Except.ok.inj h
          exact ⟨written, rfl, hover, hcheck⟩
  · rintro ⟨written, hfile, hover, hcheck⟩
    simp only [load, hfile, hover, hcheck, bind, Except.bind]
    rfl

/-- What `load` puts in force is what the file says, or the standard (`SettingsFile.Holds`), under
the variables that are set (`Merged`), if that keeps the rules (`Proper`). There is something in
force exactly if the file is missing or describes settings, the number of earlier messages is not
set or spells a number, and the rules are kept. No other variable has a part in it. -/
theorem settings_in_force (file : SettingsFile) (env : Environment) :
    (∀ settings, load file env = .ok settings ↔
      (∃ written, file.Holds written ∧ Merged env written settings) ∧ settings.Proper) ∧
    (∀ written, (∃! merged, Merged env written merged) ↔
      env.Leaves "SNOID_HISTORY_COUNT" ∨
        ∃ text n, env.Sets "SNOID_HISTORY_COUNT" text ∧ Spells text n) ∧
    ∀ other : Environment, (∀ name ∈ variableNames, env name = other name) →
      load file env = load file other := by
  refine ⟨fun settings => ?_, existsUnique_merged_iff, fun other hother => ?_⟩
  · rw [load_eq_ok_iff]
    simp only [ofFile_eq_ok_iff, override_eq_ok_iff, check_eq_ok_iff]
    constructor
    · rintro ⟨written, hwritten, hmerged, hproper⟩
      exact ⟨⟨written, hwritten, hmerged⟩, hproper⟩
    · rintro ⟨⟨written, hwritten, hmerged⟩, hproper⟩
      exact ⟨written, hwritten, hmerged, hproper⟩
  · rw [load, load]
    simp only [override_congr hother]

example :
    let env : Environment := fun name =>
      if name = "SNOID_HISTORY_COUNT" then some " +7 "
      else if name = "SNOID_BOT_NAME" then some "  "
      else none
    (load .missing env).toOption.map (fun settings => (settings.historyCount, settings.botName)) =
      some (7, standard.botName) := by
  decide +kernel

end Settings

end Gadfly
