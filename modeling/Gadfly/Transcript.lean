/-
  Gadfly.Transcript

  The part of a conversation that the models get to see.

  A `Transcript` has one `Line` for each message, `speaker: text`, from the oldest to the newest,
  and ends with the message in question (`build`). `truncate` flattens a text to one line and cuts
  it to a length; the speaker stands in the line as it came (`Line.ofMessage`).

  Main definitions: `truncate`, `Transcript.Line`, `Transcript`, `Transcript.build`,
  `Transcript.render`.
-/

import Gadfly.Message

namespace Gadfly

/-! ## Cutting texts -/

/-- Stands at the end of a text that was cut (`TRUNCATION_MARKER`). -/
def truncationMark : Char := '…'

/-- How many characters are kept unless the settings say otherwise (`DEFAULT_TRUNCATE_LENGTH`). -/
def standardTruncateLength : Nat := 500

/-- Line breaks become spaces. -/
def flattenChar (c : Char) : Char :=
  if c = '\n' ∨ c = '\r' then ' ' else c

/-- A trimmed text on one line, by `flattenChar`. -/
def flatten (cs : List Char) : List Char :=
  (Text.trim cs).map flattenChar

/-- Keeps the first `most` characters, with the `truncationMark` when there were more. -/
def cut (most : Nat) (cs : List Char) : List Char :=
  if most < cs.length then cs.take most ++ [truncationMark] else cs

/-- A text on one line (`flatten`), `cut` to `most` characters (`truncate_text`). -/
def truncate (text : String) (most : Nat) : String :=
  String.ofList (cut most (flatten text.toList))

/-- A cut text has at most one character more than were to be kept. -/
theorem length_cut_le (most : Nat) (cs : List Char) : (cut most cs).length ≤ most + 1 := by
  unfold cut
  split
  · rw [List.length_append, List.length_take, List.length_singleton]
    omega
  · omega

/-! ## Transcripts -/

/-- One line of a transcript (`TranscriptLine`). -/
structure Transcript.Line where
  speaker : String
  text : String
  deriving Repr, DecidableEq

/-- Lines from the oldest to the newest. -/
structure Transcript where
  lines : List Transcript.Line
  deriving Repr, DecidableEq

namespace Transcript

/-- The line of a message. Only the body goes through `truncate`; the author's name stands as it
came. -/
def Line.ofMessage (most : Nat) (message : Message) : Line where
  speaker := message.authorName
  text := truncate message.content most

/-- The text of a line. -/
def Line.render (line : Line) : String :=
  line.speaker ++ ": " ++ line.text

/-- The transcript for a message: the newest `count` messages of the history other than itself, and
then the message. The history comes newest first, the lines oldest first. -/
def build (most count : Nat) (message : Message) (history : List Message) : Transcript where
  lines := (((history.filter (·.id != message.id)).take count).map (Line.ofMessage most)).reverse ++
    [Line.ofMessage most message]

/-- The lines (`Line.render`) with line breaks between them. -/
def render (transcript : Transcript) : String :=
  "\n".intercalate (transcript.lines.map Line.render)

/-- There are at most `count` lines before that of the message. -/
theorem length_build_le (most count : Nat) (message : Message) (history : List Message) :
    (build most count message history).lines.length ≤ count + 1 := by
  rw [build, List.length_append, List.length_reverse, List.length_map, List.length_take,
    List.length_singleton]
  omega

/-- The last line is that of the message. -/
theorem getLast?_build (most count : Nat) (message : Message) (history : List Message) :
    (build most count message history).lines.getLast? = some (Line.ofMessage most message) := by
  simp [build]

end Transcript

end Gadfly
