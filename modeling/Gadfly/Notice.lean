/-
  Gadfly.Notice

  What the bot reports about its work.

  A `Notice` is an event with its data. Its `level`, its `text` and its named `fields` are
  functions of the event.

  Main definitions: `Notice`, `Notice.level`, `Notice.text`, `Notice.fields`.
-/

import Gadfly.Fault
import Gadfly.Mode
import Gadfly.Price.Cost

namespace Gadfly

/-- Something worth reporting. -/
inductive Notice where
  /-- A message is being handled. -/
  | routing (message : Message) (mode : Mode)
  /-- The history of a channel could not be had. -/
  | noHistory (message : Message) (fault : TransportFault)
  /-- A completion call was made on behalf of a message. -/
  | cost (messageId : String) (record : Price.Record)
  /-- An answer to somebody who addressed the bot failed. -/
  | directFailed (messageId : String) (fault : Fault)
  /-- An answer to a greeting failed. -/
  | greetingFailed (messageId : String) (fault : Fault)
  /-- Nothing was left of a critique that had to be given. -/
  | emptyCritique (messageId : String)
  /-- A message that went by could not be judged. -/
  | passiveFailed (message : Message) (fault : Fault)
  /-- The answer to a command could not be delivered. -/
  | commandFailed (messageId : String) (fault : TransportFault)
  /-- The transport reported a failure between messages. -/
  | transportFailed (fault : TransportFault)
  /-- No more messages will come, and `inFlight` are still being handled. -/
  | inboundClosed (inFlight : Nat)
  /-- The completion service answered with an error status. -/
  | serviceRefused (status : Nat) (body : String)

namespace Notice

/-- How serious a notice is. -/
inductive Level where
  | info
  | warning
  | error
  deriving Repr, DecidableEq

/-- The name of a level. -/
def Level.name : Level → String
  | .info => "INFO"
  | .warning => "WARN"
  | .error => "ERROR"

/-- How serious a notice is. -/
def level : Notice → Level
  | .routing .. | .cost .. | .inboundClosed .. => .info
  | .passiveFailed .. => .error
  | _ => .warning

/-- What a notice says. -/
def text : Notice → String
  | .routing .. => "Routing message"
  | .noHistory .. => "History unavailable, using the message alone"
  | .cost .. => "Completion cost"
  | .directFailed .. => "Direct reply failed, falling back to passive flow"
  | .greetingFailed .. => "Presence reply failed, falling back to passive flow"
  | .emptyCritique .. => "Forced critique came back empty, nothing sent"
  | .passiveFailed .. => "Passive handling failed, message dropped"
  | .commandFailed .. => "Command reply failed"
  | .transportFailed .. => "Transport error"
  | .inboundClosed .. => "Inbound stream closed"
  | .serviceRefused .. => "Provider returned error"

/-- A value that goes with a notice. -/
inductive Field where
  | text (value : String)
  | count (value : Nat)
  | amount (value : Float)

/-- The values that go with a notice. -/
def fields : Notice → List (String × Field)
  | .routing message mode =>
    [("message_id", .text message.id), ("channel", .text message.channel),
      ("author", .text message.authorName), ("mode", .text mode.name)]
  | .noHistory message fault =>
    [("message_id", .text message.id), ("channel", .text message.channel),
      ("error", .text fault.message)]
  | .cost messageId record =>
    [("message_id", .text messageId), ("purpose", .text record.purpose.name),
      ("model", .text record.model), ("input_tokens", .count record.inputTokens),
      ("output_tokens", .count record.outputTokens), ("cost_usd", .amount record.dollars)]
  | .directFailed messageId fault | .greetingFailed messageId fault =>
    [("message_id", .text messageId), ("error", .text fault.message)]
  | .emptyCritique messageId => [("message_id", .text messageId)]
  | .passiveFailed message fault =>
    [("message_id", .text message.id), ("channel", .text message.channel),
      ("error", .text fault.message)]
  | .commandFailed messageId fault =>
    [("message_id", .text messageId), ("error", .text fault.message)]
  | .transportFailed fault => [("error", .text fault.message)]
  | .inboundClosed inFlight => [("in_flight", .count inFlight)]
  | .serviceRefused status body => [("status", .count status), ("body", .text body)]

end Notice

end Gadfly
