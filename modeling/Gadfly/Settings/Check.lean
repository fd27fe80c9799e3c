/-
  Gadfly.Settings.Check

  The rules for settings, and the settings in force.

  `Settings.check` is the operation `validate`: it looks at one rule after the other and stops at
  the first that is broken. `Settings.load` reads the file, lets the environment override it
  (`Settings.override`), and checks what comes of it.

  Main definitions: `Settings.check`, `Settings.load`, `SettingsFault.message`.
-/

import Gadfly.Settings.Environment
import Gadfly.Settings.File

namespace Gadfly

namespace Settings

/-- The most messages that a page of history can hold (`MAX_HISTORY_COUNT`). -/
def maxHistoryCount : Nat := 100

/-- The names of models with a negative rate. -/
def negativelyPriced (settings : Settings) : List String :=
  (settings.pricing.filter fun (_, rates) => rates.input < 0.0 || rates.output < 0.0).map (·.1)

/-- The first rule that settings break (`validate`). -/
def check (settings : Settings) : Except SettingsFault Unit :=
  if settings.cheapModel.allBlank || settings.expensiveModel.allBlank then
    .error (.invalid "cheap_model and expensive_model must not be empty")
  else if settings.botName.allBlank then .error (.invalid "bot_name must not be empty")
  else if settings.greetingTokens.all (·.allBlank) then
    .error (.invalid "greeting_tokens must contain at least one non-empty token")
  else if settings.truncateLength = 0 then .error (.invalid "truncate_length must be > 0")
  else if maxHistoryCount < settings.historyCount then
    .error (.invalid ("history_count must be at most " ++ toString maxHistoryCount))
  else
    match settings.negativelyPriced with
    | name :: _ => .error (.invalid ("pricing for '" ++ name ++ "' must not be negative"))
    | [] => .ok ()

/-- The settings in force (`load_with`): those of the file (`SettingsFile`), overridden by variables
(`override`), if they keep the rules (`check`). -/
def load (file : SettingsFile) (env : Environment) : Except SettingsFault Settings := do
  let written ← ofFile file
  let (settings, result) := written.override env
  result
  settings.check
  return settings

end Settings

/-- The text of a fault in the settings of a path. How a file is malformed is not told. -/
def SettingsFault.message (path : String) : SettingsFault → String
  | .unreadable reason => "Failed to read config file at " ++ path ++ ": " ++ reason
  | .malformed => "Failed to parse config file at " ++ path
  | .invalid reason => "Configuration validation failed: " ++ reason

end Gadfly
