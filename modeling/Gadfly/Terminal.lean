/-
  Gadfly.Terminal

  A conversation in a terminal.

  A `Terminal` is a single channel with one person and the bot. All that either of them says is
  kept in its log (`record`), whose entries are numbered from one; the history of a message is the
  log `before` it. `ingest` takes a line of the person, and `reply` an answer of the bot. A line
  that starts, blanks apart, with an at sign and the name of the bot in any case is addressed to
  the bot (`addresses`, which is `addresses_bot`).

  `read` takes the person's lines to the first that is a farewell, or is no text at all (`Input`).
  Blank lines are passed over.

  Main definitions: `Terminal`, `Terminal.record`, `Terminal.ingest`, `Terminal.before`,
  `Terminal.addresses`, `Terminal.reply`, `Terminal.transport`, `Terminal.read`.
-/

import Gadfly.Stage
import Gadfly.Text.Case
import Gadfly.Text.Lines
import Gadfly.Text.Utf8

namespace Gadfly

open Gadfly.Time

/-- A terminal with what was said on it (`CliChannel` with its `SessionLog`). -/
structure Terminal where
  botName : String
  userName : String
  /-- The moment of each entry of the log. -/
  clock : Nat → Timestamp
  /-- What was said, oldest first. -/
  log : List Message
  /-- What was printed. -/
  screen : String

namespace Terminal

/-! ## Names -/

/-- The transport's name. -/
def name : String := "cli"

/-- The id of the only channel. -/
def channel : String := "cli"

/-- The bot's id. -/
def botId : String := "cli-bot"

/-- The person's id. -/
def userId : String := "local_user"

/-- A terminal on which nothing was said. -/
def blank (botName userName : String) (clock : Nat → Timestamp) : Terminal :=
  ⟨botName, userName, clock, [], ""⟩

/-! ## The log -/

/-- The next entry of the log, by the bot or by the person; its id is its number. -/
def entry (terminal : Terminal) (fromBot : Bool) (content : String) : Message where
  id := toString (terminal.log.length + 1)
  authorId := if fromBot then botId else userId
  authorName := if fromBot then terminal.botName else terminal.userName
  channel := channel
  content := content
  fromBot := fromBot
  mentions := .empty
  timestamp := terminal.clock (terminal.log.length + 1)

/-- Adds an entry to the `log`. -/
def record (terminal : Terminal) (entry : Message) : Terminal :=
  { terminal with log := terminal.log ++ [entry] }

@[simp] theorem log_record (terminal : Terminal) (entry : Message) :
    (terminal.record entry).log = terminal.log ++ [entry] := rfl

/-- The newest entries before the one with an id (`fetch_history`); the newest of all when there is
none. -/
def before (terminal : Terminal) (id : String) (limit : Nat) : List Message :=
  ((terminal.log.takeWhile (·.id ≠ id)).reverse).take limit

/-- No more entries than were asked for. -/
theorem length_before_le (terminal : Terminal) (id : String) (limit : Nat) :
    (terminal.before id limit).length ≤ limit := by
  rw [before, List.length_take]
  exact Nat.min_le_left ..

/-! ## Speaking -/

/-- Whether a line is addressed to the bot of a name (`addresses_bot`). -/
def addresses (botName line : String) : Bool :=
  ('@' :: botName.lowered.toList).isPrefixOf line.trimmedStart.lowered.toList

/-- The person says a line (`ingest_line`), which is a mention of the bot if it `addresses` it. The
log has it without the mention. -/
def ingest (terminal : Terminal) (line : String) : Message × Terminal :=
  let entry := terminal.entry false line
  (if addresses terminal.botName line then entry.mentioning botId else entry,
    terminal.record entry)

/-- The bot says a text (`send_reply`): it is printed after the bot's name, on a line of its own,
and recorded. -/
def reply (terminal : Terminal) (text : String) : Terminal :=
  { terminal.record (terminal.entry true text) with
    screen := terminal.screen ++ terminal.botName ++ ": " ++ text ++ "\n" }

@[simp] theorem log_ingest (terminal : Terminal) (line : String) :
    (terminal.ingest line).2.log = terminal.log ++ [terminal.entry false line] := rfl

@[simp] theorem log_reply (terminal : Terminal) (text : String) :
    (terminal.reply text).log = terminal.log ++ [terminal.entry true text] := rfl

/-- Forgets what was printed. -/
def wiped (terminal : Terminal) : Terminal :=
  { terminal with screen := "" }

/-- The terminal as a `Transport`. Nothing that the bot does here can fail. -/
def transport : Transport Terminal where
  selfId _ := botId
  history terminal _ id limit := (.ok (terminal.before id limit), terminal)
  typing terminal _ := (.ok (), terminal)
  send terminal _ text := (.ok (), terminal.reply text)

/-! ## Reading -/

/-- The lines that end a conversation. -/
def farewells : List String :=
  ["exit", "quit", "/exit", "/quit", ":q"]

/-- What a person may do with a line, blanks apart. -/
inductive Input where
  /-- Nothing was said. -/
  | nothing
  | farewell
  | said (line : String)
  /-- The bytes of the line are no text. -/
  | garbled (fault : Text.Utf8.Fault)
  deriving Repr, DecidableEq

/-- What the bytes of a line are: a text by `Text.Utf8.decode`, if they are one. -/
def Input.ofBytes (bytes : List UInt8) : Input :=
  match Text.Utf8.decode bytes with
  | .error fault => .garbled fault
  | .ok text =>
    let line := text.trimmed
    if line = "" then .nothing
    else if farewells.contains line then .farewell
    else .said line

/-- Takes in what a person does, up to the end of the conversation: each `Input.said` is taken by
`ingest`. -/
def follow (terminal : Terminal) : List Input → List Event × Terminal
  | [] | .farewell :: _ => ([], terminal)
  | .garbled fault :: _ => ([.error (.connectionLost fault.message)], terminal)
  | .nothing :: rest => terminal.follow rest
  | .said line :: rest =>
    let (message, terminal) := terminal.ingest line
    let (events, terminal) := terminal.follow rest
    (.ok message :: events, terminal)

/-- Takes in a stream of bytes, line by line (`Text.lines`), as `start` does. -/
def read (terminal : Terminal) (bytes : List UInt8) : List Event × Terminal :=
  terminal.follow ((Text.lines bytes).map .ofBytes)

end Terminal

end Gadfly
