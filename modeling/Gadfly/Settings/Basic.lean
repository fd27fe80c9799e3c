/-
  Gadfly.Settings.Basic

  What the bot can be told about itself.

  `Settings` has a value for everything; `Settings.standard` is what it is where nobody says
  otherwise. `Settings.prices` is the price table with the rates of the settings put on top of the
  built-in ones. A `SettingsFault` is a rule that is broken, and a `MissingCredential` one that
  some task cannot do without.

  Main definitions: `Settings`, `Settings.standard`, `Settings.prices`, `SettingsFault`,
  `MissingCredential`, `Settings.requireOpenaiKey`, `Settings.requireDiscordToken`.
-/

import Gadfly.Price.Table
import Gadfly.Text.Blank

namespace Gadfly

open Gadfly.Price

/-- The settings of the bot (`BotConfig`). -/
structure Settings where
  /-- The model that decides whether a message deserves an answer. -/
  cheapModel : String
  /-- The model that writes critiques and greetings. -/
  expensiveModel : String
  /-- How many earlier messages a transcript shows. -/
  historyCount : Nat
  /-- How many characters of a message a transcript shows. -/
  truncateLength : Nat
  /-- The name that the bot answers to. -/
  botName : String
  /-- The words by which people greet. -/
  greetingTokens : List String
  logLevel : String
  /-- What commands start with. -/
  commandPrefix : String
  /-- How many seconds a request may take. -/
  requestTimeout : Nat
  openaiKey : Option String
  openaiBase : String
  discordToken : Option String
  /-- Rates of models, at most one entry for a name. -/
  pricing : List (String × Rates)

/-- Why there are no usable settings (`ConfigError`). -/
inductive SettingsFault where
  /-- The file is there and cannot be read as text. -/
  | unreadable (reason : String)
  /-- The file is not a well-formed settings file. -/
  | malformed
  /-- The settings contradict a rule. -/
  | invalid (reason : String)
  deriving Repr, DecidableEq

/-- A credential that is not set. -/
structure MissingCredential where
  /-- The variable that would set it. -/
  variableName : String
  deriving Repr, DecidableEq

/-- The text of a missing credential. -/
def MissingCredential.message (missing : MissingCredential) : String :=
  "Missing credential: set " ++ missing.variableName

namespace Settings

/-- The settings of a bot that was told nothing. -/
def standard : Settings where
  cheapModel := "gpt-4o-mini"
  expensiveModel := "gpt-4o"
  historyCount := 9
  truncateLength := 500
  botName := "snoid"
  greetingTokens := ["hey", "hi", "hello", "yo", "sup", "what's up", "whats up", "wassup",
    "howdy", "hiya"]
  logLevel := "info"
  commandPrefix := "!"
  requestTimeout := 120
  openaiKey := none
  openaiBase := "https://api.openai.com/v1"
  discordToken := none
  pricing := []

/-- Sets the rates for a name, over those that it had. -/
def setRates (name : String) (rates : Rates) : List (String × Rates) → List (String × Rates)
  | [] => [(name, rates)]
  | (other, there) :: rest =>
    if name = other then (name, rates) :: rest else (other, there) :: setRates name rates rest

/-- The price table in force (`pricing_table`): the `Price.Table.builtIn` rates under those of the
settings. -/
def prices (settings : Settings) : Table :=
  Table.builtIn.setAll settings.pricing

/-- The key for the completion service (`require_openai_key`). -/
def requireOpenaiKey (settings : Settings) : Except MissingCredential String :=
  match settings.openaiKey with
  | some key => .ok key
  | none => .error ⟨"OPENAI_API_KEY"⟩

/-- The token for the chat platform (`require_discord_token`). -/
def requireDiscordToken (settings : Settings) : Except MissingCredential String :=
  match settings.discordToken with
  | some token => .ok token
  | none => .error ⟨"DISCORD_BOT_TOKEN"⟩

end Settings

end Gadfly
