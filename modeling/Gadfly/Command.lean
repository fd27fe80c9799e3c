/-
  Gadfly.Command

  Commands that people can give in a chat.

  A command is a message that starts, blanks apart, with a fixed mark, directly followed by the
  name of the command in any case. What follows the first blank is its argument. `parse?` takes a
  message apart into an `Invocation`, and `reply?` is the operation `dispatch`: it answers `ping`,
  and `price` by `priceReply`.

  Main definitions: `Command.Invocation`, `Command.parse?`, `Command.priceReply`,
  `Command.reply?`.
-/

import Gadfly.Message
import Gadfly.Price.Table
import Gadfly.Decimal.Fixed
import Gadfly.Text.Search

namespace Gadfly.Command

open Gadfly.Price Gadfly.Decimal

/-- A command with its argument, trimmed. -/
structure Invocation where
  name : String
  argument : String
  deriving Repr, DecidableEq

/-- The `Invocation` in a text, for a mark that is not empty. -/
def parse? (mark content : String) : Option Invocation :=
  if mark = "" then none
  else do
    let body ← Text.stripLead mark.toList (Text.trim content.toList)
    match Text.splitAtFirst Text.isBlank body with
    | some (name, rest) => return ⟨String.ofList name, String.ofList (Text.trim rest)⟩
    | none => return ⟨String.ofList body, ""⟩

/-- A rate in dollars, to six places. -/
def dollars (rate : Float) : String :=
  "$" ++ fixed 6 rate

/-- What is known of the price of a model (`price_reply`): its rates by `Price.Table.find?`. -/
def priceReply (mark : String) (table : Table) (model : String) : String :=
  if model = "" then "Usage: " ++ mark ++ "price <model>"
  else
    match table.find? model with
    | some rates =>
      canonical model ++ ": " ++ dollars rates.input ++ " per 1K input tokens, " ++
        dollars rates.output ++ " per 1K output tokens"
    | none => "No pricing known for " ++ model

/-- The answer to a text that is a command (`dispatch`): to `ping`, or by `priceReply`. -/
def reply? (mark : String) (table : Table) (content : String) : Option String := do
  let invocation ← parse? mark content
  match invocation.name.lowered with
  | "ping" => some "pong"
  | "price" => some (priceReply mark table invocation.argument)
  | _ => none

/-- Without a mark there are no commands. -/
@[simp] theorem reply?_no_mark (table : Table) (content : String) :
    reply? "" table content = none := rfl

end Gadfly.Command
