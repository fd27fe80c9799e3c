/-
  Gadfly.Settings.Description

  Settings as a text for people to look at.

  `Settings.describe` writes texts in quotes and rates as short as they can be. A credential is
  never shown, only whether there is one (`redacted`).

  Main definitions: `describeRecord`, `redacted`, `Settings.describe`.
-/

import Gadfly.Settings.Basic
import Gadfly.Decimal.Shortest
import Gadfly.Text.Quoted

namespace Gadfly

open Gadfly.Text Gadfly.Price

/-- A record: its name, and its fields in braces. -/
def describeRecord (name : String) (fields : List (String × String)) : String :=
  name ++ " \x7b " ++ ", ".intercalate (fields.map fun (field, value) => field ++ ": " ++ value) ++
    " \x7d"

/-- What is shown of a credential. -/
def redacted : Option String → String
  | some _ => "[REDACTED]"
  | none => "None"

namespace Settings

/-- Rates as a text. -/
def describeRates (rates : Rates) : String :=
  describeRecord "PricingOverrideConfig"
    [("input_per_1k", Decimal.rateLayout.write rates.input),
      ("output_per_1k", Decimal.rateLayout.write rates.output)]

/-- Rates by name as a text. -/
def describePricing (pricing : List (String × Rates)) : String :=
  "\x7b" ++ ", ".intercalate
    (pricing.map fun (name, rates) => quoted name ++ ": " ++ describeRates rates) ++ "\x7d"

/-- Settings as a text. -/
def describe (settings : Settings) : String :=
  describeRecord "BotConfig"
    [("cheap_model", quoted settings.cheapModel),
      ("expensive_model", quoted settings.expensiveModel),
      ("history_count", toString settings.historyCount),
      ("truncate_length", toString settings.truncateLength), ("bot_name", quoted settings.botName),
      ("greeting_tokens", quotedList settings.greetingTokens),
      ("log_level", quoted settings.logLevel), ("command_prefix", quoted settings.commandPrefix),
      ("request_timeout_secs", toString settings.requestTimeout),
      ("openai_api_key", quoted (redacted settings.openaiKey)),
      ("openai_base_url", quoted settings.openaiBase),
      ("discord_bot_token", quoted (redacted settings.discordToken)),
      ("pricing", describePricing settings.pricing)]

end Settings

end Gadfly
