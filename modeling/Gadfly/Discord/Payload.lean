/-
  Gadfly.Discord.Payload

  What the chat platform sends.

  A `Post` is a posted message with its author (`User`), what is known of the author in the server
  (`Member`), and the users that it mentions; `Post.toMessage` makes the bot's `Message` of it,
  with the author under the `displayName`. A `Frame` is what comes over the gateway: its data may
  be any value, a post among others.

  Main definitions: `Discord.User`, `Discord.Member`, `Discord.Post`, `Discord.Post.displayName`,
  `Discord.Post.toMessage`, `Discord.Frame`.
-/

import Gadfly.Message

namespace Gadfly.Discord

open Gadfly.Time

/-- An account (`ApiUser`). -/
structure User where
  id : String
  username : String
  globalName : Option String
  bot : Bool
  deriving Repr, DecidableEq

/-- Reads an account. -/
def User.ofJson? (j : Json) : Option User :=
  match j.fields? ["id", "username", "global_name", "bot"] with
  | some [id, username, globalName, bot] => do
    return {
      id := ← Json.required Json.text? id
      username := ← Json.required Json.text? username
      globalName := ← Json.optional Json.text? globalName
      bot := ← Json.orElse false Json.flag? bot }
  | _ => none

/-- What is known of the author in the server where a message was posted (`ApiMember`). -/
structure Member where
  nick : Option String
  deriving Repr, DecidableEq

/-- Reads what is known of the author. -/
def Member.ofJson? (j : Json) : Option Member :=
  match j.fields? ["nick"] with
  | some [nick] => do return { nick := ← Json.optional Json.text? nick }
  | _ => none

/-- A posted message (`ApiMessage`). -/
structure Post where
  id : String
  channel : String
  content : String
  author : User
  mentions : List User
  member : Option Member
  timestamp : Timestamp
  deriving Repr, DecidableEq

namespace Post

/-- Reads a posted message. -/
def ofJson? (j : Json) : Option Post :=
  match j.fields? ["id", "channel_id", "content", "author", "mentions", "member", "timestamp"] with
  | some [id, channel, content, author, mentions, member, timestamp] => do
    return {
      id := ← Json.required Json.text? id
      channel := ← Json.required Json.text? channel
      content := ← Json.orElse "" Json.text? content
      author := ← Json.required User.ofJson? author
      mentions := ← Json.orElse [] (Json.list? User.ofJson?) mentions
      member := ← Json.optional Member.ofJson? member
      timestamp := ← Json.required (fun j => j.text?.bind Timestamp.read?) timestamp }
  | _ => none

/-- The name by which the author is shown (`display_name`): the one in the server, else the one
everywhere, else the name of the account. -/
def displayName (post : Post) : String :=
  match post.member.bind (·.nick), post.author.globalName with
  | some nick, _ => nick
  | none, some name => name
  | none, none => post.author.username

/-- The `Message` that was posted (`into_inbound`). -/
def toMessage (post : Post) : Message where
  id := post.id
  authorId := post.author.id
  authorName := post.displayName
  channel := post.channel
  content := post.content
  fromBot := post.author.bot
  mentions := .ofList (post.mentions.map (·.id))
  timestamp := post.timestamp

end Post

/-! ## Frames -/

/-- What comes over the gateway (`GatewayPayload`): an operation with data, a running number and a
name. -/
structure Frame where
  op : Nat
  data : Json
  sequence : Option Nat
  name : Option String

/-- Reads a frame. The data (`Json.value?`) may have any structure that is not nested too deeply. -/
def Frame.ofJson? (j : Json) : Option Frame :=
  match j.fields? ["op", "d", "s", "t"] with
  | some [op, data, sequence, name] => do
    return {
      op := ← Json.required (Json.natural? 0x100) op
      data := ← Json.orElse .null (Json.value? (Json.maxDepth - 1)) data
      sequence := ← Json.optional (Json.natural? 0x10000000000000000) sequence
      name := ← Json.optional Json.text? name }
  | _ => none

end Gadfly.Discord
