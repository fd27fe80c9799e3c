/-
  Gadfly.Proofs.Message

  Messages that are written and read again.

  `Message.toJson` writes a message as an object, and the `NameSet` of those whom it mentions as a
  list in ascending order, or not at all if it mentions nobody. `Message.ofJson?` reads the
  message again as it was, if its timestamp can be written. As the set is all that is known of the
  mentions, the order in which they were added is not to be seen.

  Main statements: `NameSet.ext_contains`, `NameSet.ofList_toList`, `Message.ofJson?_toJson_iff`,
  `Message.read_as_written`.
-/

import Mathlib.Data.List.Perm.Basic
import Gadfly.Message
import Gadfly.Proofs.JsonText
import Gadfly.Proofs.Record
import Gadfly.Proofs.Timestamp

namespace Gadfly

namespace NameSet

variable {set other : NameSet} {names : List String} {name : String}

theorem contains_iff : set.contains name = true ↔ name ∈ set.toList := by
  rw [contains, List.contains_iff_mem]

theorem contains_foldl_insert :
    (names.foldl insert set).contains name = true ↔ set.contains name = true ∨ name ∈ names := by
  induction names generalizing set with
  | nil => simp
  | cons first rest ih =>
    rw [List.foldl_cons, ih, contains_insert, Bool.or_eq_true, beq_iff_eq, List.mem_cons]
    tauto

/-- The set of the names in a list has just these names. -/
theorem contains_ofList : (ofList names).contains name = true ↔ name ∈ names := by
  rw [ofList, contains_foldl_insert]
  exact or_iff_right nofun

/-- Two sets with the same names are the same (`contains`). -/
theorem ext_contains (h : ∀ name, set.contains name = true ↔ other.contains name = true) :
    set = other := by
  have hperm : set.toList.Perm other.toList := by
    rw [List.perm_ext_iff_of_nodup (set.ascending.imp fun hlt => String.ne_of_lt hlt)
      (other.ascending.imp fun hlt => String.ne_of_lt hlt)]
    intro name
    rw [← contains_iff, ← contains_iff, h]
  have hlist : set.toList = other.toList :=
    hperm.eq_of_pairwise (fun a b _ _ hab hba => absurd hab (String.lt_asymm hba))
      set.ascending other.ascending
  obtain ⟨names, hnames⟩ := set
  subst hlist
  rfl

theorem ofList_toList (set : NameSet) : ofList set.toList = set :=
  ext_contains fun name => by rw [contains_ofList, contains_iff]

end NameSet

namespace Message

open Json Time

variable {message decoded : Message} {j : Json} {users others : List String}

/-- The ids of the mentioned users, as they are written. -/
def mentionsSlot (message : Message) : Option Json :=
  if message.mentions.toList.isEmpty then none
  else some (.array (message.mentions.toList.map .string))

theorem fields?_toJson (message : Message) :
    fields? fieldNames message.toJson =
      some [some (.string message.id), some (.string message.authorId),
        some (.string message.authorName), some (.string message.channel),
        some (.string message.content), some (.bool message.fromBot), message.mentionsSlot,
        some (.string message.timestamp.write)] := by
  rw [toJson, members, mentionsSlot, fields?_eq_some_iff, isRecord_object_iff]
  split <;> simp [fieldNames, Json.field?]

/-- Whether the mentions are written or left out, they are read as the same set. -/
theorem read_mentionsSlot (message : Message) :
    orElse [] (list? text?) message.mentionsSlot = some message.mentions.toList := by
  rw [mentionsSlot]
  split
  · -- No list is read as an empty one.
    rename_i hempty
    rw [List.isEmpty_iff.1 hempty]
    rfl
  · exact list?_map_array fun _ _ => rfl

/-- A message is read again as it was written, but for its time, which is as it is read. -/
theorem ofJson?_toJson (message : Message) :
    ofJson? message.toJson = (Timestamp.read? message.timestamp.write).map fun time =>
      { message with timestamp := time } := by
  rw [ofJson?, fields?_toJson]
  simp only [read_mentionsSlot]
  simp only [required, text?, orElse, flag?, Option.bind_eq_bind, Option.bind_some,
    Option.pure_def, NameSet.ofList_toList]
  cases Timestamp.read? message.timestamp.write <;> rfl

theorem ofJson?_toJson_iff :
    ofJson? message.toJson = some message ↔
      Timestamp.read? message.timestamp.write = some message.timestamp := by
  rw [ofJson?_toJson, Option.map_eq_some_iff]
  constructor
  · rintro ⟨time, htime, hsame⟩
    have hsame : time = message.timestamp := congrArg Message.timestamp hsame
    rw [htime, hsame]
  · intro htime
    exact ⟨message.timestamp, htime, rfl⟩

theorem legible_toJson (message : Message) : Legible message.toJson := by
  rw [toJson, members, legible_object_iff]
  split <;> simp

/-- A message that was read has a time that a text can say. -/
theorem isRegular_of_ofJson? (h : ofJson? j = some message) : message.timestamp.IsRegular := by
  rw [ofJson?] at h
  split at h
  · simp only [Option.bind_eq_bind, Option.bind_eq_some_iff, Option.pure_def] at h
    obtain ⟨_, -, _, -, _, -, _, -, _, -, _, -, _, -, time, htime, hdone⟩ := h
    obtain rfl := Option.some.inj hdone
    obtain ⟨written, -, hwritten⟩ := required_eq_some_iff.1 htime
    obtain ⟨text, -, htext⟩ := Option.bind_eq_some_iff.1 hwritten
    exact Timestamp.isRegular_of_read? htext
  · cases h

/-! ## Mentions -/

theorem foldl_mentioning (users : List String) (message : Message) :
    users.foldl mentioning message =
      { message with mentions := users.foldl NameSet.insert message.mentions } := by
  induction users generalizing message with
  | nil => rfl
  | cons user users ih => rw [List.foldl_cons, List.foldl_cons, ih, mentioning]

/-- In whatever order the same users are added, and however often, the message is the same. -/
theorem foldl_mentioning_congr (h : ∀ user, user ∈ users ↔ user ∈ others) (message : Message) :
    users.foldl mentioning message = others.foldl mentioning message := by
  have hset : users.foldl NameSet.insert message.mentions =
      others.foldl NameSet.insert message.mentions := NameSet.ext_contains fun user => by
    rw [NameSet.contains_foldl_insert, NameSet.contains_foldl_insert, h]
  rw [foldl_mentioning, foldl_mentioning, hset]

theorem mentionsUser_iff {user : String} :
    message.mentionsUser user = true ↔ user ≠ "" ∧ message.mentions.contains user = true := by
  rw [mentionsUser, Bool.and_eq_true, bne_iff_ne]

/-- A message that is written, as a value (`toJson`) or as a text, is read again as it was, as long
as its time is (`Timestamp.IsRegular`): and so is the time of every message that was ever read. The
order in which mentions were added leaves no trace in what is written. Whatever is read mentions
just those whom the message mentioned (`mentionsUser`), and nobody by the empty id. -/
theorem read_as_written (message : Message) :
    (ofJson? message.toJson = some message ↔
      Timestamp.read? message.timestamp.write = some message.timestamp) ∧
    (message.timestamp.IsRegular →
      (Json.read? (Json.write message.toJson)).bind ofJson? = some message) ∧
    (∀ j, ofJson? j = some message → message.timestamp.IsRegular) ∧
    (∀ users others : List String, (∀ user, user ∈ users ↔ user ∈ others) →
      (users.foldl mentioning message).toJson = (others.foldl mentioning message).toJson) ∧
    ∀ decoded, ofJson? message.toJson = some decoded → ∀ user,
      (decoded.mentionsUser user = true ↔ user ≠ "" ∧ message.mentions.contains user = true) := by
  refine ⟨ofJson?_toJson_iff, ?_, fun j => isRegular_of_ofJson?, ?_, ?_⟩
  · intro hregular
    rw [read?_write (legible_toJson message), Option.bind_some]
    exact ofJson?_toJson_iff.2 (Timestamp.read?_write hregular)
  · intro users others h
    rw [foldl_mentioning_congr h]
  · intro decoded hdecoded user
    rw [ofJson?_toJson] at hdecoded
    obtain ⟨time, -, rfl⟩ := Option.map_eq_some_iff.1 hdecoded
    exact mentionsUser_iff

section Scene

/-- A message that was posted in a leap second. -/
def thanks : Message where
  id := "1"
  authorId := "7"
  authorName := "Ann"
  channel := "900"
  content := "thanks"
  fromBot := false
  mentions := .empty
  timestamp := ⟨17166, 86399, 1500000000⟩

theorem read_as_written_of_thanks :
    thanks.timestamp.IsRegular ∧
    (Json.read? (Json.write (["b", "a", "b"].foldl mentioning thanks).toJson)).bind ofJson? =
      some (["a", "b"].foldl mentioning thanks) ∧
    ∃ decoded, ofJson? (["a", "b"].foldl mentioning thanks).toJson = some decoded ∧
      decoded.mentionsUser "b" = true := by
  have hregular : thanks.timestamp.IsRegular := ⟨by decide, by decide, by decide⟩
  have horder : (["b", "a", "b"].foldl mentioning thanks).toJson =
      (["a", "b"].foldl mentioning thanks).toJson :=
    (read_as_written thanks).2.2.2.1 _ _ fun user => by
      simp only [List.mem_cons, List.not_mem_nil, or_false]
      tauto
  have hmessage := read_as_written (["a", "b"].foldl mentioning thanks)
  have hdecoded := hmessage.1.2 (Timestamp.read?_write hregular)
  refine ⟨hregular, ?_, _, hdecoded, (hmessage.2.2.2.2 _ hdecoded "b").2 ⟨by decide, by decide⟩⟩
  rw [horder]
  exact hmessage.2.1 hregular

end Scene

end Message

end Gadfly
