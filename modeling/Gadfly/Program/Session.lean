/-
  Gadfly.Program.Session

  The bot at work on a transport.

  For a session the settings have to hold the key of the completion service (`account`). The bot
  then handles all that comes in, with the price table and the commands of the settings: `attend`
  is the operation `serve_transport`, on a terminal (`chat`) or on the chat platform (`join`).

  Main definitions: `attend`, `chat`, `join`.
-/

import Gadfly.Discord.Rest
import Gadfly.Program.Failure
import Gadfly.Responses
import Gadfly.Terminal

namespace Gadfly.Program

variable {τ σ : Type}

/-- The bot that the settings describe. -/
def router (settings : Settings) (selfId : String) : Router :=
  ⟨settings, selfId, settings.prices⟩

/-- The commands that the settings describe. -/
def commands (settings : Settings) : Commands :=
  some (settings.commandPrefix, settings.prices)

/-- The account at the completion service. -/
def account (settings : Settings) : Except MissingCredential Responses.Account :=
  settings.requireOpenaiKey.map (Responses.Account.openai settings.openaiBase)

/-! ## Any transport -/

/-- Handles what a transport of a name brings in (`serve_transport`), unless it cannot be
started. -/
def attend (web : Http.Network σ) (settings : Settings) (transport : Transport τ) (name : String)
    (inbound : Except TransportFault (List Event)) (t : τ) (s : σ) :
    Except Failure Unit × Stage τ σ :=
  let stage := Stage.fresh t s (commands settings)
  match account settings, inbound with
  | .error missing, _ => (.error (.credential missing), stage)
  | .ok _, .error fault => (.error (.start name fault), stage)
  | .ok account, .ok events =>
    let partner := Stage.partner transport (Responses.service web account)
    let (_, stage) := serve partner (router settings (transport.selfId t)) events stage
    (.ok (), stage)

/-! ## The terminal -/

/-- What a conversation in the terminal starts with. -/
def banner (settings : Settings) : String :=
  "\n  Snoid — local chat\n\n  Gate model:     " ++ settings.cheapModel ++
    "\n  Critique model: " ++ settings.expensiveModel ++ "\n  History:        " ++
    toString settings.historyCount ++ " messages\n\n  Say something. Start with @" ++
    settings.botName ++ " to address the bot.\n  Type 'exit' or Ctrl+D to quit.\n\n"

/-- A conversation in the terminal (`Terminal`): what is printed, and whether it came to its end. -/
def chat (web : Http.Network σ) (settings : Settings) (terminal : Terminal)
    (input : List UInt8) (s : σ) : String × Except Failure Unit × σ :=
  let (events, terminal) := terminal.read input
  let (result, stage) :=
    attend web settings Terminal.transport Terminal.name (.ok events) terminal s
  let ending := match result with
    | .ok () => "\n"
    | .error _ => ""
  (banner settings ++ stage.transport.screen ++ ending, result, stage.service)

/-! ## The chat platform -/

/-- Takes part in the chat platform: logs in, and handles what comes in from then on. Both
credentials have to be there before anybody is asked. -/
def join (web : Http.Network σ) (platform : Http.Network τ) (settings : Settings)
    (channels : List String) (inbound : List Event) (t : τ) (s : σ) :
    Except Failure Unit × τ × σ :=
  match settings.requireDiscordToken, settings.requireOpenaiKey with
  | .error missing, _ | .ok _, .error missing => (.error (.credential missing), t, s)
  | .ok token, .ok _ =>
    let account := { Discord.Account.standard token with channels }
    match Discord.ask platform account t .whoAmI with
    | (.error fault, t) => (.error (.login fault), t, s)
    | (.ok user, t) =>
      let transport := Discord.transport platform account user.id
      let (result, stage) := attend web settings transport Discord.name (.ok inbound) t s
      (result, stage.transport, stage.service)

end Gadfly.Program
