/-
  Gadfly.Mode

  How a message concerns the bot.

  A message that mentions the bot addresses it (`direct`). Without a mention, the bot's name
  together with a greeting greets it (`greeting`). Everything else merely goes by (`passive`).
  `isNamed` and `isGreeted` look for the name and the greetings as parts of the text, in any case;
  `ofSigns` puts the three signs together.

  Main definitions: `Mode`, `Mode.ofSigns`, `Mode.isNamed`, `Mode.isGreeted`, `Mode.classify`.
-/

import Gadfly.Settings.Basic
import Gadfly.Message
import Gadfly.Text.Search

namespace Gadfly

/-- How a message is handled (`InteractionMode`). -/
inductive Mode where
  /-- The message mentions the bot. -/
  | direct
  /-- The message greets the bot by its name. -/
  | greeting
  /-- Anything else. -/
  | passive
  deriving Repr, DecidableEq

namespace Mode

/-- The name of a mode in reports. -/
def name : Mode → String
  | .direct => "direct_address"
  | .greeting => "name_greeting"
  | .passive => "passive"

/-- The mode for what was found in a message (`from_flags`). A mention wins over a greeting. -/
def ofSigns (mentioned named greeted : Bool) : Mode :=
  if mentioned then .direct else if named && greeted then .greeting else .passive

/-- Whether the bot's name occurs in a text (`String.mentions`). -/
def isNamed (botName content : String) : Bool :=
  let name := botName.trimmed.lowered
  name != "" && content.lowered.mentions name

/-- Whether one of the greetings occurs in a text (`String.mentions`). Blank greetings count for
nothing. -/
def isGreeted (greetings : List String) (content : String) : Bool :=
  ((greetings.map fun token => token.trimmed.lowered).filter (· != "")).any
    content.lowered.mentions

/-- The mode of a message for a bot with the id `selfId`, by `Message.mentionsUser`, `isNamed` and
`isGreeted`. -/
def classify (settings : Settings) (selfId : String) (message : Message) : Mode :=
  ofSigns (message.mentionsUser selfId) (isNamed settings.botName message.content)
    (isGreeted settings.greetingTokens message.content)

/-- A message addresses the bot directly exactly when it mentions the bot. -/
theorem classify_eq_direct_iff {settings : Settings} {selfId : String} {message : Message} :
    classify settings selfId message = .direct ↔ message.mentionsUser selfId = true := by
  simp only [classify, ofSigns]
  split
  · simp_all
  · split <;> simp_all

end Mode

end Gadfly
