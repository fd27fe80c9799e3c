/-
  Gadfly.Price.Cost

  What one completion call cost.

  `estimate` is linear in the tokens read and written, rounded to a millionth of a dollar
  (`roundMillionth`). A `Record` says what the call was for (`Purpose`), and is reported once and
  not kept.

  Main definitions: `Purpose`, `estimate`, `Record`, `record`.
-/

import Gadfly.Price.Table

namespace Gadfly.Price

/-- Why a completion was asked for. -/
inductive Purpose where
  /-- To decide whether a message deserves an answer. -/
  | gate
  /-- To write a critique. -/
  | critique
  /-- To acknowledge a greeting. -/
  | presence
  deriving Repr, DecidableEq

/-- The name of a purpose. -/
def Purpose.name : Purpose → String
  | .gate => "gate"
  | .critique => "critique"
  | .presence => "presence"

/-- Rounds to a millionth, a half away from zero. -/
def roundMillionth (x : Float) : Float :=
  (x * 1000000.0).round / 1000000.0

/-- The estimated price in dollars of a call. -/
def estimate (table : Table) (model : String) (inputTokens outputTokens : Nat) : Float :=
  let rates := table.rates model
  roundMillionth
    (inputTokens.toFloat / 1000.0 * rates.input + outputTokens.toFloat / 1000.0 * rates.output)

/-- The price of one call. -/
structure Record where
  purpose : Purpose
  model : String
  inputTokens : Nat
  outputTokens : Nat
  dollars : Float

/-- Prices a call. -/
def record (table : Table) (purpose : Purpose) (model : String)
    (inputTokens outputTokens : Nat) : Record :=
  ⟨purpose, model, inputTokens, outputTokens, estimate table model inputTokens outputTokens⟩

end Gadfly.Price
