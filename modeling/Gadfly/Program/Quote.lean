/-
  Gadfly.Program.Quote

  What a model costs, as the program tells it.

  `quotePrice` writes the rates of a model that the table finds and the estimate for a number of
  tokens; for any other model it lists the names that are known.

  Main definitions: `quotePrice`.
-/

import Gadfly.Command
import Gadfly.Price.Cost
import Gadfly.Settings.Basic

namespace Gadfly.Program

open Gadfly.Price

/-- The rates of a model and what some tokens of it cost, or the models that have rates. -/
def quotePrice (table : Table) (model : String) (inputTokens outputTokens : Nat) : String :=
  match table.find? model with
  | some rates =>
    canonical model ++ "\n" ++
      "  input:  " ++ Command.dollars rates.input ++ " / 1K tokens\n" ++
      "  output: " ++ Command.dollars rates.output ++ " / 1K tokens\n" ++
      "  " ++ toString inputTokens ++ " in + " ++ toString outputTokens ++ " out = " ++
      Command.dollars (estimate table model inputTokens outputTokens) ++ "\n"
  | none =>
    "No pricing known for '" ++ canonical model ++ "'; calls to it are costed at $0.\n" ++
      "Known models: " ++ ", ".intercalate table.models ++ "\n"

end Gadfly.Program
