/-
  Gadfly.Discord.Rest

  Asking the chat platform for things.

  Every `Query` is one request and is understood from the one response to it; nothing is tried
  twice. `draft` puts the request together and `interpret` reads the response: what a good one
  gives (`isGood`, `decode`), and what any other means (`refusal`, which is `status_error`).
  `history`, `reply`, `typing` and `isHealthy` are the operations `fetch_history`, `send_reply`,
  `send_typing` and `health_check`.

  Main definitions: `Discord.Account`, `Discord.Query`, `Discord.draft`, `Discord.interpret`,
  `Discord.ask`, `Discord.history`, `Discord.reply`, `Discord.typing`, `Discord.isHealthy`,
  `Discord.transport`.
-/

import Gadfly.Discord.Payload
import Gadfly.Fault
import Gadfly.Http.Exchange
import Gadfly.Settings.Description
import Gadfly.Stage
import Gadfly.Text.Quoted

namespace Gadfly.Discord

/-! ## Accounts -/

/-- How the bot takes part (`DiscordConfig`). -/
structure Account where
  token : String
  /-- The address for requests. -/
  base : String
  /-- The address of the gateway. -/
  gateway : String
  /-- Which events it wants, as bits. -/
  intents : Nat
  /-- The channels it listens to; all of them when there are none. -/
  channels : List String

/-- Servers, their messages, direct messages, and what messages say (`DEFAULT_INTENTS`). -/
def standardIntents : Nat :=
  0x1 + 0x200 + 0x1000 + 0x8000

/-- The account for a token. -/
def Account.standard (token : String) : Account where
  token := token
  base := "https://discord.com/api/v10"
  gateway := "wss://gateway.discord.gg/?v=10&encoding=json"
  intents := standardIntents
  channels := []

namespace Account

/-- Whether the bot listens to a channel (`listens_to`). -/
def listensTo (account : Account) (channel : String) : Bool :=
  account.channels.isEmpty || account.channels.contains channel

/-- An account as a text for people to look at, field by field (`describeRecord`). The token is
never shown. -/
def describe (account : Account) : String :=
  describeRecord "DiscordConfig"
    [("bot_token", Text.quoted "[REDACTED]"), ("api_base", Text.quoted account.base),
      ("gateway_url", Text.quoted account.gateway), ("intents", toString account.intents),
      ("channel_filter", Text.quotedList account.channels)]

/-- The credential as it is sent, after the word `Bot`. -/
def authorization (account : Account) : String :=
  "Bot " ++ account.token

/-- The address of a resource: `base` without slashes at its end, and then the path. -/
def address (account : Account) (path : String) : String :=
  Url.trimSlashes account.base ++ path

end Account

/-! ## Calls -/

/-- What the bot asks the platform for. Each call is one request (`draft`). -/
inductive Query where
  /-- Who it is itself. -/
  | whoAmI
  /-- Earlier messages, at least one. -/
  | history (channel before : String) (limit : Nat)
  /-- Answer a message. -/
  | reply (channel messageId text : String)
  /-- Show that an answer is being written. -/
  | typing (channel : String)

/-- The most characters of a message (`MAX_MESSAGE_CHARS`). -/
def maxContent : Nat := 2000

/-- The most messages of a page (`MAX_HISTORY_PAGE`). -/
def maxPage : Nat := 100

/-- A text cut to `maxContent` characters (`clip_for_discord`). -/
def clip (text : String) : String :=
  String.ofList (text.toList.take maxContent)

/-- What is posted for an answer: the text under `content`, clipped, with a reference to the
message, and such that nobody is notified. -/
def replyBody (messageId text : String) : Json :=
  .object
    [("content", .string (clip text)),
      ("message_reference",
        .object [("message_id", .string messageId), ("fail_if_not_exists", .bool false)]),
      ("allowed_mentions", .object [("parse", .array []), ("replied_user", .bool false)])]

/-- The request for a call. A history is asked for with `before` and `limit`, at most a page. -/
def draft (account : Account) : Query → Except Http.Failure Http.Request
  | .whoAmI => Http.draft .get (account.address "/users/@me") [] account.authorization none
  | .history channel before limit =>
    Http.draft .get (account.address ("/channels/" ++ channel ++ "/messages"))
      [("before", before), ("limit", toString (min limit maxPage))] account.authorization none
  | .reply channel messageId text =>
    Http.draft .post (account.address ("/channels/" ++ channel ++ "/messages")) []
      account.authorization (some (replyBody messageId text))
  | .typing channel =>
    Http.draft .post (account.address ("/channels/" ++ channel ++ "/typing")) []
      account.authorization none

/-! ## Responses -/

/-- Where a call goes, for reports. -/
def Query.place : Query → String
  | .whoAmI => "@me"
  | .history channel _ _ | .reply channel _ _ | .typing channel => channel

/-- The number of seconds to wait that `retry_after` tells in a body, rounded up. One second when it
does not. -/
def retryAfter (body : String) : Nat :=
  match ((Json.read? body).bind (Json.value? Json.maxDepth)).map (Json.member "retry_after") with
  | some (.number n) =>
    match n.toFloat? with
    | some seconds => seconds.ceil.toUInt64.toNat
    | none => 1
  | _ => 1

/-- A call that failed for a reason of its own: `TransportFault.noHistory` for a history and
`TransportFault.undelivered` for anything else. -/
def Query.failed (query : Query) (reason : String) : TransportFault :=
  match query with
  | .history channel _ _ => .noHistory channel reason
  | query => .undelivered query.place reason

/-- What a status means that is not the one hoped for (`status_error`): 429 tells to wait, 401
rejects the token, and any other fails the call with its number and `Http.Answer.text`. -/
def refusal (query : Query) (answer : Http.Answer) : TransportFault :=
  if answer.status = 429 then .rateLimited query.place (retryAfter answer.text)
  else if answer.status = 401 then .unauthorized "Discord rejected the bot token"
  else query.failed ("HTTP " ++ toString answer.status ++ ": " ++ answer.text)

/-- What it means that there was no response: for `whoAmI` that the connection is lost. -/
def unanswered (query : Query) (failure : Http.Failure) : TransportFault :=
  match query with
  | .whoAmI => .connectionLost failure.message
  | query => query.failed failure.message

/-- What a call gives. -/
abbrev Query.Result : Query → Type
  | .whoAmI => User
  | .history .. => List Message
  | .reply .. | .typing .. => Unit

/-- What is said of a body that cannot be read. -/
def undecodable : String := "error decoding response body"

/-- What a good response gives: a `User`, or `Post`s as messages. A body that cannot be read fails
the call; an answer and a sign of writing give nothing. -/
def decode (query : Query) (answer : Http.Answer) : Except TransportFault query.Result :=
  match query with
  | .whoAmI =>
    match answer.json?.bind User.ofJson? with
    | some user => .ok user
    | none => .error (.invalidPayload undecodable)
  | .history channel _ _ =>
    match answer.json?.bind (Json.list? Post.ofJson?) with
    | some posts => .ok (posts.map Post.toMessage)
    | none => .error (.noHistory channel ("unparseable history: " ++ undecodable))
  | .reply .. => .ok ()
  | .typing .. => .ok ()

/-- Whether a response is the one hoped for: status 200 where something is to be read, and else any
success. -/
def isGood (query : Query) (answer : Http.Answer) : Bool :=
  match query with
  | .whoAmI | .history .. => answer.status == 200
  | .reply .. | .typing .. => answer.isSuccess

/-- What a response means, or that there was none: `decode`, `refusal` or `unanswered`. -/
def interpret (query : Query) : Except Http.Failure Http.Answer → Except TransportFault query.Result
  | .error failure => .error (unanswered query failure)
  | .ok answer => if isGood query answer then decode query answer else .error (refusal query answer)

/-- Makes a call: sends the `draft`, and reads the response by `interpret`. -/
def ask {σ : Type} (network : Http.Network σ) (account : Account) (s : σ) (query : Query) :
    Except TransportFault query.Result × σ :=
  let (answer, s) := Http.send network s (draft account query)
  (interpret query answer, s)

/-! ## What the bot does with it -/

variable {σ : Type} (network : Http.Network σ) (account : Account) (s : σ)

/-- Earlier messages of a channel (`fetch_history`). For none of them nobody is asked. -/
def history (channel before : String) (limit : Nat) :
    Except TransportFault (List Message) × σ :=
  if limit = 0 then (.ok [], s) else ask network account s (.history channel before limit)

/-- Answers a message (`send_reply`). -/
def reply (message : Message) (text : String) : Except TransportFault Unit × σ :=
  ask network account s (.reply message.channel message.id text)

/-- Shows in a channel that an answer is being written (`send_typing`). -/
def typing (channel : String) : Except TransportFault Unit × σ :=
  ask network account s (.typing channel)

/-- Whether the platform knows the bot (`health_check`): `whoAmI` is answered. -/
def isHealthy : Bool × σ :=
  let (user, s) := ask network account s .whoAmI
  (user.isOk, s)

/-- The transport's name. -/
def name : String := "discord"

/-- The platform as a `Transport`, for a bot with the id `selfId`. -/
def transport (selfId : String) : Transport σ where
  selfId _ := selfId
  history s channel before limit := history network account s channel before limit
  typing s channel := typing network account s channel
  send s message text := reply network account s message text

end Gadfly.Discord
