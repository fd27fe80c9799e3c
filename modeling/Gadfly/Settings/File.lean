/-
  Gadfly.Settings.File

  Settings from a file.

  The file is a TOML document. A setting that it does not mention keeps its standard value
  (`entry`), and what it says beyond the settings is passed over. A setting of the wrong kind
  makes the whole file malformed (`Settings.ofToml?`). A file that is not there
  (`SettingsFile.missing`) says nothing.

  Main definitions: `Settings.ofToml?`, `SettingsFile`, `Settings.ofFile`.
-/

import Gadfly.Settings.Basic
import Gadfly.Decimal.Reader
import Gadfly.Text.Utf8
import Gadfly.Toml.Reader

namespace Gadfly

open Gadfly.Price

namespace Settings

/-! ## Single values -/

/-- A text. -/
def text? : Toml → Option String
  | .string s => some s
  | _ => none

/-- A number that is not negative. -/
def natural? : Toml → Option Nat
  | .integer n => if 0 ≤ n then some n.toNat else none
  | _ => none

/-- A double, or a whole number in place of one. -/
def double? : Toml → Option Float
  | .float x => some x
  | .integer n => some (Decimal.Literal.mk (n < 0) n.natAbs 0).toFloat
  | _ => none

/-- A list of texts. -/
def texts? : Toml → Option (List String)
  | .array items => items.mapM text?
  | _ => none

/-- The rates of one model: a table with both, or an array that starts with both. -/
def rates? : Toml → Option Rates
  | .table _ members => do
    return ⟨← double? (← Toml.find? members "input_per_1k"),
      ← double? (← Toml.find? members "output_per_1k")⟩
  | .array (input :: output :: _) => do return ⟨← double? input, ← double? output⟩
  | _ => none

/-- The rates of models by name. -/
def pricing? : Toml → Option (List (String × Rates))
  | .table _ members => members.mapM fun (name, value) => (rates? value).map (name, ·)
  | _ => none

/-! ## The whole file -/

/-- The value of a setting in a document, `absent` when it is not mentioned. -/
def entry {α : Type} (members : Toml.Members) (name : String) (absent : α)
    (value? : Toml → Option α) : Option α :=
  match Toml.find? members name with
  | some value => value? value
  | none => some absent

/-- The settings that a document describes, each by its `entry`. -/
def ofToml? (members : Toml.Members) : Option Settings := do
  return {
    cheapModel := ← entry members "cheap_model" standard.cheapModel text?
    expensiveModel := ← entry members "expensive_model" standard.expensiveModel text?
    historyCount := ← entry members "history_count" standard.historyCount natural?
    truncateLength := ← entry members "truncate_length" standard.truncateLength natural?
    botName := ← entry members "bot_name" standard.botName text?
    greetingTokens := ← entry members "greeting_tokens" standard.greetingTokens texts?
    logLevel := ← entry members "log_level" standard.logLevel text?
    commandPrefix := ← entry members "command_prefix" standard.commandPrefix text?
    requestTimeout := ← entry members "request_timeout_secs" standard.requestTimeout natural?
    openaiKey := ← entry members "openai_api_key" standard.openaiKey fun v => (text? v).map some
    openaiBase := ← entry members "openai_base_url" standard.openaiBase text?
    discordToken :=
      ← entry members "discord_bot_token" standard.discordToken fun v => (text? v).map some
    pricing := ← entry members "pricing" standard.pricing pricing? }

end Settings

/-- What is found in the place of the settings file. -/
inductive SettingsFile where
  | missing
  /-- Something that cannot be read, such as a directory. -/
  | blocked (reason : String)
  | content (bytes : List UInt8)

/-- Whether there is anything in the place of the file. -/
def SettingsFile.isThere : SettingsFile → Bool
  | .missing => false
  | .blocked _ | .content _ => true

namespace Settings

/-- Why bytes that are not UTF-8 cannot be read. -/
def notText : String := "stream did not contain valid UTF-8"

/-- The settings in a file (`read_file`). A file that is missing leaves the `standard`. -/
def ofFile : SettingsFile → Except SettingsFault Settings
  | .missing => .ok standard
  | .blocked reason => .error (.unreadable reason)
  | .content bytes =>
    match Text.Utf8.decode bytes with
    | .error _ => .error (.unreadable notText)
    | .ok text =>
      match (Toml.read? text).bind ofToml? with
      | some settings => .ok settings
      | none => .error .malformed

/-- Without a file the settings are the standard ones. -/
@[simp] theorem ofFile_missing : ofFile .missing = .ok standard := rfl

end Settings

end Gadfly
