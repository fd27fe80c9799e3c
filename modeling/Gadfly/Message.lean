/-
  Gadfly.Message

  Messages seen on a channel.

  A `Message` is what the bot handles and what the history of a channel consists of. The users
  that it mentions form a `NameSet`: their ids are kept in ascending order and without repetition,
  so that the order in which they were added leaves no trace. `Message.ofPerson`, `mentioning` and
  `asBot` build messages, and `mentionsUser` never finds the empty id.

  Main definitions: `NameSet`, `NameSet.insert`, `Message`, `Message.mentionsUser`,
  `Message.toJson`, `Message.ofJson?`.
-/

import Gadfly.Text.Case
import Gadfly.Time.Reader
import Gadfly.Time.Printer
import Gadfly.Json.Decode

namespace Gadfly

open Gadfly.Time

/-! ## Sets of names -/

/-- A finite set of names. -/
structure NameSet where
  /-- The names in ascending order. -/
  toList : List String
  ascending : toList.Pairwise (· < ·) := by simp
  deriving DecidableEq

namespace NameSet

/-- No name. -/
def empty : NameSet where
  toList := []

/-- Puts a name in its place. -/
def insertSorted (name : String) : List String → List String
  | [] => [name]
  | other :: rest =>
    if name < other then name :: other :: rest
    else if other < name then other :: insertSorted name rest
    else other :: rest

theorem mem_insertSorted {name x : String} {names : List String} :
    x ∈ insertSorted name names ↔ x = name ∨ x ∈ names := by
  induction names with
  | nil => simp [insertSorted]
  | cons other rest ih =>
    simp only [insertSorted]
    split
    · simp
    · split
      · simp [ih, or_left_comm]
      · have : other = name := String.le_antisymm ‹_› ‹_›
        simp [this]

theorem pairwise_insertSorted {name : String} {names : List String}
    (h : names.Pairwise (· < ·)) : (insertSorted name names).Pairwise (· < ·) := by
  induction names with
  | nil => simp [insertSorted]
  | cons other rest ih =>
    rw [List.pairwise_cons] at h
    simp only [insertSorted]
    split
    · rename_i hlt
      rw [List.pairwise_cons, List.pairwise_cons]
      refine ⟨fun x hx => ?_, h⟩
      rcases List.mem_cons.1 hx with rfl | hx
      · exact hlt
      · exact String.lt_trans hlt (h.1 x hx)
    · split
      · rename_i hlt
        rw [List.pairwise_cons]
        refine ⟨fun x hx => ?_, ih h.2⟩
        rcases mem_insertSorted.1 hx with rfl | hx
        · exact hlt
        · exact h.1 x hx
      · rw [List.pairwise_cons]
        exact h

/-- Adds a name. -/
def insert (set : NameSet) (name : String) : NameSet where
  toList := insertSorted name set.toList
  ascending := pairwise_insertSorted set.ascending

/-- The set of the names in a list. -/
def ofList (names : List String) : NameSet :=
  names.foldl insert empty

/-- Whether a name is in the set. -/
def contains (set : NameSet) (name : String) : Bool :=
  set.toList.contains name

/-- A name is in the set after an insertion when it was before, or when it is the new one. -/
theorem contains_insert (set : NameSet) (name x : String) :
    (set.insert name).contains x = (x == name || set.contains x) := by
  rw [Bool.eq_iff_iff]
  simp [contains, insert, mem_insertSorted]

end NameSet

/-! ## Messages -/

/-- A message on a channel (`InboundMessage`). -/
structure Message where
  id : String
  authorId : String
  authorName : String
  channel : String
  content : String
  /-- Whether the author is an automated account. -/
  fromBot : Bool
  /-- The ids of the users whom the message mentions. -/
  mentions : NameSet
  timestamp : Timestamp
  deriving DecidableEq

namespace Message

/-- A message by a person, without mentions. The author's id is the name in lower case. -/
def ofPerson (id channel author content : String) (timestamp : Timestamp) : Message where
  id := id
  authorId := author.lowered
  authorName := author
  channel := channel
  content := content
  fromBot := false
  mentions := .empty
  timestamp := timestamp

/-- Adds a mentioned user to `mentions`. -/
def mentioning (message : Message) (user : String) : Message :=
  { message with mentions := message.mentions.insert user }

/-- Marks the author as an automated account (`from_bot`). -/
def asBot (message : Message) : Message :=
  { message with fromBot := true }

/-- Whether a user is mentioned (`mentions_user`). The empty id is nobody's. -/
def mentionsUser (message : Message) (user : String) : Bool :=
  user != "" && message.mentions.contains user

/-- Nobody is mentioned by the empty id. -/
@[simp] theorem mentionsUser_empty (message : Message) : message.mentionsUser "" = false := rfl

/-! ## The written form -/

/-- The names of the fields, in order. -/
def fieldNames : List String :=
  ["id", "author_id", "author_name", "channel_id", "content", "is_bot", "mentions", "timestamp"]

/-- The members of a message other than its time. An empty set of mentions is left out. -/
def members (message : Message) : List (String × Json) :=
  [("id", .string message.id), ("author_id", .string message.authorId),
    ("author_name", .string message.authorName), ("channel_id", .string message.channel),
    ("content", .string message.content), ("is_bot", .bool message.fromBot)] ++
  (if message.mentions.toList.isEmpty then []
    else [("mentions", .array (message.mentions.toList.map .string))])

/-- A message as an object. -/
def toJson (message : Message) : Json :=
  .object (message.members ++ [("timestamp", .string message.timestamp.write)])

/-- Reads a message. -/
def ofJson? (j : Json) : Option Message :=
  match Json.fields? fieldNames j with
  | some [id, authorId, authorName, channel, content, fromBot, mentions, timestamp] => do
    return {
      id := ← Json.required Json.text? id
      authorId := ← Json.required Json.text? authorId
      authorName := ← Json.required Json.text? authorName
      channel := ← Json.required Json.text? channel
      content := ← Json.required Json.text? content
      fromBot := ← Json.orElse false Json.flag? fromBot
      mentions := .ofList (← Json.orElse [] (Json.list? Json.text?) mentions)
      timestamp := ← Json.required (fun j => j.text?.bind Timestamp.read?) timestamp }
  | _ => none

end Message

end Gadfly
