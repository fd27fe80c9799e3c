/-
  Gadfly.Program.Diagnosis

  Looking whether everything is in order.

  A `Diagnosis` is a list of `Finding`s, some of which are issues (`Finding.isIssue`). The
  settings come first; when they cannot be used, nothing else is looked at (`diagnose`). Then come
  the rates of the two models, the completion service and the chat platform, each independent of
  the others (`examine`).

  Main definitions: `Finding`, `Finding.isIssue`, `Finding.text`, `examine`, `Diagnosis.write`,
  `diagnose`.
-/

import Gadfly.Program.Session

namespace Gadfly.Program

/-- Something found out about the bot's surroundings. -/
inductive Finding where
  /-- A model has no rates. -/
  | unpriced (model : String)
  | credentialMissing (missing : MissingCredential)
  /-- The completion service answers at an address. -/
  | serviceThere (address : String)
  /-- The completion service answers, but not with success. -/
  | serviceRefuses
  | serviceUnreachable (fault : ServiceFault)
  /-- The chat platform knows the bot by an id. -/
  | loggedIn (id : String)
  /-- The chat platform answers again. -/
  | platformThere
  | platformSilent
  | loginFailed (fault : TransportFault)

namespace Finding

/-- Whether a finding is one to do something about. -/
def isIssue : Finding → Bool
  | .serviceThere _ | .loggedIn _ | .platformThere => false
  | _ => true

/-- What a finding says. -/
def text : Finding → String
  | .unpriced model => "⚠️  No pricing for '" ++ model ++ "', its calls will be costed at $0"
  | .credentialMissing missing => "❌ " ++ missing.message
  | .serviceThere address => "✅ OpenAI reachable at " ++ address
  | .serviceRefuses => "❌ OpenAI health check failed (check the API key)"
  | .serviceUnreachable fault => "❌ OpenAI unreachable: " ++ fault.message
  | .loggedIn id => "✅ Discord token valid (bot id " ++ id ++ ")"
  | .platformThere => "✅ Discord API reachable"
  | .platformSilent => "❌ Discord API did not answer the identity check"
  | .loginFailed fault => "❌ Discord login failed: " ++ fault.message

end Finding

/-! ## Examining -/

variable {τ σ : Type}

/-- The models of the settings that have no rates. -/
def examinePrices (settings : Settings) : List Finding :=
  ([settings.cheapModel, settings.expensiveModel].filter
    fun model => (settings.prices.find? model).isNone).map .unpriced

/-- Whether the completion service is there. -/
def examineService (web : Http.Network σ) (settings : Settings) (s : σ) : List Finding × σ :=
  match account settings with
  | .error missing => ([.credentialMissing missing], s)
  | .ok account =>
    match Responses.probe web account s with
    | (.ok true, s) => ([.serviceThere settings.openaiBase], s)
    | (.ok false, s) => ([.serviceRefuses], s)
    | (.error fault, s) => ([.serviceUnreachable fault], s)

/-- Whether the chat platform knows the bot, and still does when asked again. -/
def examinePlatform (platform : Http.Network τ) (settings : Settings) (t : τ) :
    List Finding × τ :=
  match settings.requireDiscordToken with
  | .error missing => ([.credentialMissing missing], t)
  | .ok token =>
    let account := Discord.Account.standard token
    match Discord.ask platform account t .whoAmI with
    | (.error fault, t) => ([.loginFailed fault], t)
    | (.ok user, t) =>
      let (healthy, t) := Discord.isHealthy platform account t
      ([.loggedIn user.id, if healthy then .platformThere else .platformSilent], t)

/-- Examines the surroundings of a bot with settings, for each `Finding`. -/
def examine (web : Http.Network σ) (platform : Http.Network τ) (settings : Settings) (t : τ)
    (s : σ) : List Finding × τ × σ :=
  let (service, s) := examineService web settings s
  let (login, t) := examinePlatform platform settings t
  (examinePrices settings ++ service ++ login, t, s)

/-! ## Writing -/

/-- A diagnosis: where the settings were looked for, whether there was a file, and either why
they cannot be used or what was found with them. -/
structure Diagnosis where
  path : String
  fileThere : Bool
  result : Except SettingsFault (Settings × List Finding)

namespace Diagnosis

/-- A line of a diagnosis. -/
def line (text : String) : String :=
  "  " ++ text ++ "\n"

/-- The heading of a diagnosis. -/
def heading : String :=
  "🩺 Snoid Doctor — System Diagnostics\n===================================\n\n"

/-- What is said about the file of the settings. -/
def fileLine (diagnosis : Diagnosis) : String :=
  if diagnosis.fileThere then line ("✅ Config file found: " ++ diagnosis.path)
  else line ("⚠️  No config file at " ++ diagnosis.path ++ ", using defaults")

/-- What is said about usable settings. -/
def settingsLines (settings : Settings) : String :=
  line "✅ Config valid" ++
    line ("   gate: " ++ settings.cheapModel ++ "  critique: " ++ settings.expensiveModel ++
      "  history: " ++ toString settings.historyCount)

/-- What is said in the end. -/
def summary (findings : List Finding) : String :=
  let issues := findings.countP (·.isIssue)
  "\n" ++
    (if issues = 0 then line "🎉 All checks passed!"
      else line ("⚠️  " ++ toString issues ++ " issue(s) found. See above for details."))

/-- A diagnosis as a text. -/
def write (diagnosis : Diagnosis) : String :=
  heading ++ diagnosis.fileLine ++
    match diagnosis.result with
    | .error fault =>
      line ("❌ Config invalid: " ++ fault.message diagnosis.path) ++ "\n" ++
        line "⚠️  1 issue found. Fix the config and run doctor again."
    | .ok (settings, findings) =>
      settingsLines settings ++ String.join (findings.map fun finding => line finding.text) ++
        summary findings

end Diagnosis

/-- Looks whether everything is in order, for settings at a path: what `examine` finds, if there are
settings. -/
def diagnose (web : Http.Network σ) (platform : Http.Network τ) (path : String)
    (file : SettingsFile) (loaded : Except SettingsFault Settings) (t : τ) (s : σ) :
    Diagnosis × τ × σ :=
  match loaded with
  | .error fault => (⟨path, file.isThere, .error fault⟩, t, s)
  | .ok settings =>
    let (findings, t, s) := examine web platform settings t s
    (⟨path, file.isThere, .ok (settings, findings)⟩, t, s)

end Gadfly.Program
