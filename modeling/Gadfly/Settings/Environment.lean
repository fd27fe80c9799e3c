/-
  Gadfly.Settings.Environment

  Settings from the environment.

  Eight variables override settings (`Settings.override`). A variable that holds nothing but
  blanks counts as not set (`Environment.value?`). The number of earlier messages has to be a
  number (`count?`); when it is not, the variables after it in the order below are not looked at,
  and those before it have taken effect.

  Main definitions: `Environment`, `Environment.value?`, `Settings.override`,
  `Settings.directory`.
-/

import Gadfly.Settings.Basic
import Gadfly.Decimal.Reader
import Gadfly.Text.Quoted

namespace Gadfly

/-- The values of variables. -/
abbrev Environment := String → Option String

namespace Environment

/-- The value of a variable, unless it is blank. -/
def value? (env : Environment) (name : String) : Option String :=
  (env name).filter (!·.allBlank)

/-- The value of a variable, or another value. -/
def getD (env : Environment) (name : String) (absent : String) : String :=
  (env.value? name).getD absent

/-- The value of a variable, or perhaps another value. -/
def orElse (env : Environment) (name : String) (absent : Option String) : Option String :=
  match env.value? name with
  | some value => some value
  | none => absent

end Environment

namespace Settings

variable (env : Environment) (settings : Settings)

/-- Overrides the two models and the name. -/
def overrideNames : Settings :=
  { settings with
    cheapModel := env.getD "CHEAP_MODEL" settings.cheapModel
    expensiveModel := env.getD "THINKING_MODEL" settings.expensiveModel
    botName := env.getD "SNOID_BOT_NAME" settings.botName }

/-- The numbers of messages that can be asked for are those of 64 bits. -/
def countBound : Nat := 0x10000000000000000

/-- The number that a text spells, blanks apart: below `countBound`, with an optional plus sign. -/
def count? (text : String) : Option Nat :=
  match Decimal.readNat? (Text.trim text.toList) with
  | some n => if n < countBound then some n else none
  | none => none

/-- Overrides the number of earlier messages. -/
def overrideCount : Except SettingsFault Settings :=
  match env.value? "SNOID_HISTORY_COUNT" with
  | none => .ok settings
  | some text =>
    match count? text with
    | some n => .ok { settings with historyCount := n }
    | none =>
      .error (.invalid ("SNOID_HISTORY_COUNT must be a non-negative integer, got " ++
        Text.quoted text))

/-- Overrides the log level, the credentials and the address of the completion service. -/
def overrideAccess : Settings :=
  { settings with
    logLevel := env.getD "SNOID_LOG_LEVEL" settings.logLevel
    openaiKey := env.orElse "OPENAI_API_KEY" settings.openaiKey
    openaiBase := env.getD "OPENAI_BASE_URL" settings.openaiBase
    discordToken := env.orElse "DISCORD_BOT_TOKEN" settings.discordToken }

/-- Overrides settings by variables (`apply_env_overrides`): the settings as far as they got, and
whether all went well. In order, these are `overrideNames`, `overrideCount` and `overrideAccess`. -/
def override : Settings × Except SettingsFault Unit :=
  let named := settings.overrideNames env
  match named.overrideCount env with
  | .ok counted => (counted.overrideAccess env, .ok ())
  | .error fault => (named, .error fault)

end Settings

/-! ## The place of the settings -/

/-- A path with a name after it. -/
def joinPath (directory name : String) : String :=
  match directory.toList.getLast? with
  | none => name
  | some '/' => directory ++ name
  | some _ => directory ++ "/" ++ name

/-- The directory of the settings, in the home directory. -/
def Settings.directory (env : Environment) : String :=
  joinPath ((env "HOME").getD "/tmp") ".snoid"

end Gadfly
