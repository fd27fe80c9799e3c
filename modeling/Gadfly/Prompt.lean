/-
  Gadfly.Prompt

  The texts sent to the models, and how their answers are read.

  `Prompt.gate`, `Prompt.critique` and `Prompt.presence` end with the transcript
  (`Prompt.transcriptPart`). A model that may stay silent says so by `Prompt.sentinel`
  (`isSuppressed`); where it may not, `stripSentinel` deletes what it says of the sentinel.
  `isAffirmative` reads the answer to the gate.

  Main definitions: `Prompt.gate`, `Prompt.critique`, `Prompt.presence`, `Prompt.persona`,
  `isAffirmative`, `isSuppressed`, `stripSentinel`.
-/

import Gadfly.Text.Blank
import Gadfly.Text.Case
import Gadfly.Text.Search

namespace Gadfly

namespace Prompt

/-- What a model answers when nothing is worth saying (`SENTINEL`). -/
def sentinel : String := "<no response necessary>"

/-- The greeting for when a model has none (`PRESENCE_FALLBACK`). -/
def presenceFallback : String := "I'm here. Try saying something accurate for once."

/-- The bot's name as it stands in prompts (`persona_name`): trimmed, the first letter in upper
case. -/
def persona (botName : String) : String :=
  match Text.trim botName.toList with
  | [] => ""
  | first :: rest => String.ofList (Text.upperChar first ++ rest)

/-- How each prompt ends. -/
def transcriptPart (transcript : String) : String :=
  "\n\nTranscript:\n" ++ transcript

/-- Asks whether the last line is wrong (`gate_prompt`). -/
def gate (transcript : String) : String :=
  "You are a fact-checking assistant. Below is a chat transcript. " ++
  "Judge ONLY the final line; earlier lines are context. " ++
  "Reply with exactly 'yes' if the final line contains a factual inaccuracy " ++
  "and exactly 'no' otherwise." ++ transcriptPart transcript

/-- Whether the model may stay silent, as it is told to the model. -/
def escapeClause (forced : Bool) : String :=
  if forced then
    "You were addressed directly, so you must reply. Never answer with \"" ++ sentinel ++ "\"."
  else
    "If the final line has nothing worth correcting, reply with exactly \"" ++ sentinel ++
    "\" and nothing else."

/-- Asks for a critique of the last line (`critique_prompt`), with the `escapeClause` unless it is
forced. -/
def critique (persona transcript : String) (forced : Bool) : String :=
  "You are " ++ persona ++ ", a terse and critical fact checker. " ++
  "Point out factual inaccuracies in the final line of the transcript below; " ++
  "earlier lines are context only. Respond in at most two sentences, " ++
  "and be extremely terse and critical. " ++ escapeClause forced ++ transcriptPart transcript

/-- Asks for an answer to a greeting (`presence_prompt`). -/
def presence (persona transcript : String) : String :=
  "You are " ++ persona ++ ", a terse and critical fact checker. " ++
  "Someone in the chat just greeted you by name. " ++
  "Acknowledge them in one short, in-character sentence." ++ transcriptPart transcript

end Prompt

/-! ## Reading answers -/

/-- Whether an answer to the gate question is a yes (`is_affirmative`): it starts with a y of either
case, blanks apart. -/
def isAffirmative (answer : String) : Bool :=
  match answer.trimmed.lowered.toList with
  | c :: _ => c == 'y'
  | [] => false

/-- Whether a critique says that there is nothing to say (`is_suppressed`). -/
def isSuppressed (text : String) : Bool :=
  text.trimmed == "" || text.trimmed == Prompt.sentinel

/-- Deletes the `sentinel` from a text, in one pass, and trims what is left (`strip_sentinel`). -/
def stripSentinel (text : String) : String :=
  String.ofList (Text.trim (Text.without Prompt.sentinel.toList text.toList))

end Gadfly
