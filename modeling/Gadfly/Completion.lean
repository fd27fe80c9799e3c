/-
  Gadfly.Completion

  What a completion service is asked, and what it answers.

  A `Response` may carry its text in one piece (`outputText`), or as fragments in the parts of its
  output items (`Response.fragments`), or not at all; it may or may not say how many tokens were
  used. `Response.normal` reduces all of this to a `Completion`, a trimmed text and two counts,
  and nothing but this normal form reaches the rest of the program.

  Main definitions: `Request`, `Response`, `Response.ofJson?`, `Response.toJson`, `Completion`,
  `Response.fragments`, `Response.normal`.
-/

import Gadfly.Json.Decode
import Gadfly.Text.Blank

namespace Gadfly

/-- A question for a completion service (`CompletionRequest`). -/
structure Request where
  model : String
  prompt : String
  deriving Repr, DecidableEq

/-- A fragment of an output item (`ContentPart`). -/
structure Part where
  kind : Option String
  text : Option String
  deriving Repr, DecidableEq

/-- One item of the output (`OutputItem`): a message, a piece of reasoning. -/
structure Item where
  kind : Option String
  content : List Part
  deriving Repr, DecidableEq

/-- How many tokens a call used (`TokenUsage`). -/
structure Usage where
  inputTokens : Nat
  outputTokens : Nat
  totalTokens : Nat
  deriving Repr, DecidableEq

/-- The answer of a completion service (`CompletionResponse`). -/
structure Response where
  /-- The whole text in one piece. -/
  outputText : Option String
  output : List Item
  usage : Option Usage
  /-- The model that answered. -/
  model : Option String
  deriving Repr, DecidableEq

/-! ## Reading -/

/-- A number of tokens has 32 bits. -/
def tokenBound : Nat := 0x100000000

/-- Reads a fragment. -/
def Part.ofJson? (j : Json) : Option Part :=
  match j.fields? ["type", "text"] with
  | some [kind, text] => do
    return { kind := ← Json.optional Json.text? kind, text := ← Json.optional Json.text? text }
  | _ => none

/-- Reads an output item. -/
def Item.ofJson? (j : Json) : Option Item :=
  match j.fields? ["type", "content"] with
  | some [kind, content] => do
    return {
      kind := ← Json.optional Json.text? kind
      content := ← Json.orElse [] (Json.list? Part.ofJson?) content }
  | _ => none

/-- Reads the numbers of tokens. -/
def Usage.ofJson? (j : Json) : Option Usage :=
  match j.fields? ["input_tokens", "output_tokens", "total_tokens"] with
  | some [input, output, total] => do
    return {
      inputTokens := ← Json.orElse 0 (Json.natural? tokenBound) input
      outputTokens := ← Json.orElse 0 (Json.natural? tokenBound) output
      totalTokens := ← Json.orElse 0 (Json.natural? tokenBound) total }
  | _ => none

namespace Response

/-- An answer that is nothing but a text. -/
def ofText (text : String) : Response :=
  ⟨some text, [], none, none⟩

/-- Reads an answer. -/
def ofJson? (j : Json) : Option Response :=
  match j.fields? ["output_text", "output", "usage", "model"] with
  | some [outputText, output, usage, model] => do
    return {
      outputText := ← Json.optional Json.text? outputText
      output := ← Json.orElse [] (Json.list? Item.ofJson?) output
      usage := ← Json.optional Usage.ofJson? usage
      model := ← Json.optional Json.text? model }
  | _ => none

end Response

/-! ## Writing -/

/-- A member that is left out when there is no value. -/
def optionalMember (name : String) (value : Option Json) : List (String × Json) :=
  (value.map fun j => (name, j)).toList

/-- A fragment as an object. -/
def Part.toJson (part : Part) : Json :=
  .object (optionalMember "type" (part.kind.map .string) ++
    optionalMember "text" (part.text.map .string))

/-- An output item as an object. -/
def Item.toJson (item : Item) : Json :=
  .object (optionalMember "type" (item.kind.map .string) ++
    [("content", .array (item.content.map Part.toJson))])

/-- The numbers of tokens as an object. -/
def Usage.toJson (usage : Usage) : Json :=
  .object [("input_tokens", .ofNat usage.inputTokens), ("output_tokens", .ofNat usage.outputTokens),
    ("total_tokens", .ofNat usage.totalTokens)]

/-- An answer as an object. -/
def Response.toJson (response : Response) : Json :=
  .object (optionalMember "output_text" (response.outputText.map .string) ++
    [("output", .array (response.output.map Item.toJson))] ++
    optionalMember "usage" (response.usage.map Usage.toJson) ++
    optionalMember "model" (response.model.map .string))

/-! ## Normal form -/

/-- What the rest of the program sees of an answer (`CompletionResult`). -/
structure Completion where
  /-- Without blanks at the ends, possibly empty. -/
  text : String
  inputTokens : Nat
  outputTokens : Nat
  deriving Repr, DecidableEq

namespace Response

/-- The fragments of all parts, one after the other (`collect_fragments`). -/
def fragments (response : Response) : String :=
  String.join ((response.output.flatMap (·.content)).filterMap (·.text))

/-- The text of an answer: the piece that it offers (`outputText`), or its `fragments` when that is
missing or blank. -/
def text (response : Response) : String :=
  match response.outputText with
  | some text => if text.allBlank then response.fragments else text
  | none => response.fragments

/-- The normal form of an answer (`from_response`): its trimmed `text`, and the numbers of
tokens. -/
def normal (response : Response) : Completion where
  text := response.text.trimmed
  inputTokens := (response.usage.map (·.inputTokens)).getD 0
  outputTokens := (response.usage.map (·.outputTokens)).getD 0

/-- With a piece of text that is not blank, the output items do not matter. -/
theorem text_of_not_blank {response : Response} {text : String}
    (h : response.outputText = some text) (hb : text.allBlank = false) :
    response.text = text := by
  simp [Response.text, h, hb]

end Response

end Gadfly
