/-
  Gadfly.Proofs.Reading

  What a terminal hears.

  A stream of bytes falls into lines in just one way (`Text.Lined`). Each line is a text or it is
  garbled (`Terminal.Input`), and the conversation goes on to the first line that is garbled or a
  farewell (`Terminal.Ends`). Of the lines before it those that are not blank are heard, and
  numbered from one; of what comes after it nothing is. A garbled line is reported, and no other
  end.

  Main definitions: `Text.Lined`, `Terminal.Ends`, `Terminal.Divides`, `Terminal.remark`,
  `Terminal.noted`, `Terminal.heard`, `Terminal.outcome`.
  Main statements: `Text.lines_eq_iff`, `Terminal.exists_divides`, `Terminal.follow_eq_outcome`,
  `Terminal.read_hears_lines`.
-/

import Mathlib.Data.List.Basic
import Gadfly.Terminal
import Gadfly.Proofs.Utf8

namespace Gadfly

/-! ## Lines -/

namespace Text

/-- The lines of a stream: each ends with the only line feed in it, but the last may go without,
when there is something in it. -/
inductive Lined : List (List UInt8) → Prop
  | nil : Lined []
  | last {line : List UInt8} (hfree : lineFeed ∉ line) (hne : line ≠ []) : Lined [line]
  | cons {body : List UInt8} {rest : List (List UInt8)} (hfree : lineFeed ∉ body)
      (hrest : Lined rest) : Lined ((body ++ [lineFeed]) :: rest)

variable {b : UInt8} {bytes body : List UInt8} {ls : List (List UInt8)}

theorem lines_cons_of_ne (hb : b ≠ lineFeed) (bytes : List UInt8) :
    lines (b :: bytes) = (b :: (lines bytes).headD []) :: (lines bytes).tail := by
  rw [lines, if_neg hb]
  cases lines bytes <;> rfl

theorem lines_of_free (hfree : lineFeed ∉ body) (hne : body ≠ []) : lines body = [body] := by
  induction body with
  | nil => exact absurd rfl hne
  | cons b body ih =>
    rw [List.mem_cons, not_or] at hfree
    rw [lines_cons_of_ne (Ne.symm hfree.1)]
    cases body with
    | nil => rfl
    | cons b' body =>
      rw [ih hfree.2 (List.cons_ne_nil b' body)]
      rfl

theorem lines_append (hfree : lineFeed ∉ body) (bytes : List UInt8) :
    lines (body ++ lineFeed :: bytes) = (body ++ [lineFeed]) :: lines bytes := by
  induction body with
  | nil => rw [List.nil_append, lines, if_pos rfl, List.nil_append]
  | cons b body ih =>
    rw [List.mem_cons, not_or] at hfree
    rw [List.cons_append, lines_cons_of_ne (Ne.symm hfree.1), ih hfree.2]
    rfl

/-- A byte in front of a stream goes into its first line. -/
theorem Lined.cons_head (h : Lined ls) (hb : b ≠ lineFeed) :
    Lined ((b :: ls.headD []) :: ls.tail) := by
  cases h with
  | nil => exact .last (List.not_mem_cons_of_ne_of_not_mem hb.symm nofun) (List.cons_ne_nil _ _)
  | last hfree _ =>
    exact .last (List.not_mem_cons_of_ne_of_not_mem hb.symm hfree) (List.cons_ne_nil _ _)
  | cons hfree hrest => exact .cons (List.not_mem_cons_of_ne_of_not_mem hb.symm hfree) hrest

theorem lined_lines (bytes : List UInt8) : Lined (lines bytes) := by
  induction bytes with
  | nil => exact .nil
  | cons b bytes ih =>
    by_cases hb : b = lineFeed
    · rw [lines, if_pos hb, hb]
      exact .cons List.not_mem_nil ih
    · rw [lines_cons_of_ne hb]
      exact ih.cons_head hb

theorem Lined.lines_flatten (h : Lined ls) : lines ls.flatten = ls := by
  induction h with
  | nil => rfl
  | last hfree hne => rw [List.flatten_singleton, lines_of_free hfree hne]
  | cons hfree _ ih =>
    rw [List.flatten_cons, List.append_assoc, List.singleton_append, lines_append hfree, ih]

/-- A stream falls into `lines` in one way (`Lined`). -/
theorem lines_eq_iff : lines bytes = ls ↔ Lined ls ∧ ls.flatten = bytes := by
  constructor
  · rintro rfl
    exact ⟨lined_lines bytes, flatten_lines bytes⟩
  · rintro ⟨h, rfl⟩
    exact h.lines_flatten

example : lines (Utf8.encode "a\n\nb") = ["a\n", "\n", "b"].map Utf8.encode := by decide +kernel

end Text

namespace Terminal

open Text Time

/-! ## The end of a conversation -/

/-- The lines at which a conversation ends, with those that come after, and how reading goes
wrong there. -/
inductive Ends : List (List UInt8) → List Utf8.Fault → Prop
  | input : Ends [] []
  | farewell {text : String} (htext : text.trimmed ∈ farewells) (rest : List (List UInt8)) :
      Ends (Utf8.encode text :: rest) []
  | garbled {line : List UInt8} {fault : Utf8.Fault} (hline : ∀ text, Utf8.encode text ≠ line)
      (hfault : Utf8.decode line = .error fault) (rest : List (List UInt8)) :
      Ends (line :: rest) [fault]

/-- A stream is cut into the lines of a conversation, which are texts, and those from its end
on. -/
structure Divides (bytes : List UInt8) (texts : List String) (rest : List (List UInt8))
    (faults : List Utf8.Fault) : Prop where
  lined : Lined (texts.map Utf8.encode ++ rest)
  flatten : (texts.map Utf8.encode ++ rest).flatten = bytes
  stays : ∀ text ∈ texts, text.trimmed ∉ farewells
  ends : Ends rest faults

variable {texts : List String} {rest : List (List UInt8)} {faults : List Utf8.Fault}

/-- Lines go on to the first at which a conversation ends. -/
theorem exists_ends (ls : List (List UInt8)) :
    ∃ (texts : List String) (rest : _) (faults : _), ls = texts.map Utf8.encode ++ rest ∧
      (∀ text ∈ texts, text.trimmed ∉ farewells) ∧ Ends rest faults := by
  induction ls with
  | nil => exact ⟨[], [], [], rfl, nofun, .input⟩
  | cons line ls ih =>
    cases hline : Utf8.decode line with
    | error fault =>
      exact ⟨[], _, [fault], rfl, nofun, .garbled (Utf8.encode_ne_of_fault hline) hline ls⟩
    | ok text =>
      obtain rfl := Utf8.decode_eq_ok_iff.1 hline
      by_cases htext : text.trimmed ∈ farewells
      · exact ⟨[], _, [], rfl, nofun, .farewell htext ls⟩
      · obtain ⟨texts, rest, faults, rfl, hstays, hends⟩ := ih
        exact ⟨text :: texts, rest, faults, rfl, List.forall_mem_cons.2 ⟨htext, hstays⟩, hends⟩

theorem exists_divides (bytes : List UInt8) :
    ∃ texts rest faults, Divides bytes texts rest faults := by
  obtain ⟨texts, rest, faults, hlines, hstays, hends⟩ := exists_ends (lines bytes)
  obtain ⟨hlined, hflatten⟩ := lines_eq_iff.1 hlines
  exact ⟨texts, rest, faults, hlined, hflatten, hstays, hends⟩

/-! ## What is heard -/

/-- The log's entry of a line with a number. -/
def noted (terminal : Terminal) (line : String) (n : Nat) : Message where
  id := toString n
  authorId := userId
  authorName := terminal.userName
  channel := channel
  content := line
  fromBot := false
  mentions := .empty
  timestamp := terminal.clock n

/-- The message of a line with a number. It mentions the bot if the line is addressed to it. -/
def remark (terminal : Terminal) (line : String) (n : Nat) : Message :=
  { terminal.noted line n with
    mentions := if addresses terminal.botName line then .ofList [botId] else .empty }

/-- The lines that are heard, and their numbers from some one on. -/
def heard (texts : List String) (first : Nat) : List (String × Nat) :=
  ((texts.map String.trimmed).filter (· ≠ "")).zipIdx first

@[simp] theorem heard_nil (first : Nat) : heard [] first = [] := rfl

theorem heard_cons_of_blank {text : String} (htext : text.trimmed = "") (texts : List String)
    (first : Nat) : heard (text :: texts) first = heard texts first := by
  rw [heard, List.map_cons, List.filter_cons_of_neg (by simpa using htext), heard]

theorem heard_cons {text : String} (htext : text.trimmed ≠ "") (texts : List String)
    (first : Nat) :
    heard (text :: texts) first = (text.trimmed, first) :: heard texts (first + 1) := by
  rw [heard, List.map_cons, List.filter_cons_of_pos (by simpa using htext), List.zipIdx_cons, heard]

theorem ingest_eq (terminal : Terminal) (line : String) :
    terminal.ingest line = (terminal.remark line (terminal.log.length + 1),
      terminal.record (terminal.noted line (terminal.log.length + 1))) := by
  rw [ingest, remark]
  cases addresses terminal.botName line <;> rfl

theorem ofBytes_encode (text : String) :
    Input.ofBytes (Utf8.encode text) =
      if text.trimmed = "" then .nothing
      else if farewells.contains text.trimmed then .farewell
      else .said text.trimmed := by
  rw [Input.ofBytes, Utf8.decode_encode]

/-- At the end of a conversation nothing is heard, be there more lines or not. -/
theorem follow_ends (h : Ends rest faults) (terminal : Terminal) :
    terminal.follow (rest.map .ofBytes) =
      (faults.map fun fault => .error (.connectionLost fault.message), terminal) := by
  cases h with
  | input => rfl
  | @farewell text htext rest =>
    have hne : text.trimmed ≠ "" := by
      intro hblank
      rw [hblank] at htext
      exact absurd htext (by decide)
    rw [List.map_cons, ofBytes_encode, if_neg hne, if_pos (List.contains_iff_mem.2 htext)]
    rfl
  | garbled _ hfault rest =>
    rw [List.map_cons, Input.ofBytes, hfault]
    rfl

/-- What comes of the lines of a conversation on a terminal: the messages, the error if any, and
what is in the log after them. -/
def outcome (terminal : Terminal) (texts : List String) (faults : List Utf8.Fault) :
    List Event × Terminal :=
  let spoken := heard texts (terminal.log.length + 1)
  (spoken.map (fun (line, n) => .ok (terminal.remark line n)) ++
      faults.map (fun fault => .error (.connectionLost fault.message)),
    { terminal with log := terminal.log ++ spoken.map fun (line, n) => terminal.noted line n })

/-- Reading goes through the lines of a conversation one by one: `follow` comes to the `outcome`. -/
theorem follow_eq_outcome (hstays : ∀ text ∈ texts, text.trimmed ∉ farewells)
    (hends : Ends rest faults) (terminal : Terminal) :
    terminal.follow ((texts.map Utf8.encode ++ rest).map .ofBytes) =
      terminal.outcome texts faults := by
  -- Line by line: the log of the terminal grows with the lines that are said.
  induction texts generalizing terminal with
  | nil =>
    rw [List.map_nil, List.nil_append, follow_ends hends, outcome, heard_nil]
    simp only [List.map_nil, List.nil_append, List.append_nil]
  | cons text texts ih =>
    obtain ⟨htext, hstays⟩ := List.forall_mem_cons.1 hstays
    rw [List.map_cons, List.cons_append, List.map_cons, ofBytes_encode]
    by_cases hblank : text.trimmed = ""
    · rw [if_pos hblank, outcome, heard_cons_of_blank hblank]
      exact ih hstays terminal
    · -- The line is said, and the others are on a log with one more entry.
      rw [if_neg hblank, if_neg (mt List.contains_iff_mem.1 htext), follow, ingest_eq, outcome,
        heard_cons hblank]
      dsimp only
      rw [ih hstays, outcome, log_record, List.length_append, List.length_singleton,
        List.append_assoc]
      rfl

/-- Every stream can be cut at the end of its conversation (`Divides`), and however that is done, a
fresh terminal that `read`s it hears the lines before the cut that are not blank, trimmed and
numbered from one on, and then an error if the cut was made at a garbled line, and nothing more. -/
theorem read_hears_lines (botName userName : String) (clock : Nat → Timestamp)
    (bytes : List UInt8) :
    (∃ texts rest faults, Divides bytes texts rest faults) ∧
      ∀ texts rest faults, Divides bytes texts rest faults →
        let terminal := blank botName userName clock
        terminal.read bytes =
          ((heard texts 1).map (fun (line, n) => .ok (terminal.remark line n)) ++
              faults.map (fun fault => .error (.connectionLost fault.message)),
            { terminal with
              log := (heard texts 1).map fun (line, n) => terminal.noted line n }) := by
  refine ⟨exists_divides bytes, fun texts rest faults h => ?_⟩
  have hlines : lines bytes = texts.map Utf8.encode ++ rest := lines_eq_iff.2 ⟨h.lined, h.flatten⟩
  intro terminal
  have hread : terminal.read bytes = terminal.outcome texts faults := by
    rw [Terminal.read, hlines, follow_eq_outcome h.stays h.ends]
  exact hread

/-- A line for the bot, a blank one, and one that is garbled: the farewell after it has no line
feed, and nobody hears it. -/
theorem hears_up_to_garbled_line :
    let clock : Nat → Timestamp := fun n => ⟨20000, n, 0⟩
    let terminal := blank "gadfly" "you" clock
    (terminal.read (Utf8.encode " @Gadfly no\r\n\t\nyes\n" ++ [0x61, 0xFF, 0x0A] ++
        Utf8.encode "exit")).1 =
      [.ok (terminal.remark "@Gadfly no" 1), .ok (terminal.remark "yes" 2),
        .error (.connectionLost "invalid utf-8 sequence of 1 bytes from index 1")] := by
  intro clock terminal
  have hfault : Utf8.decode [0x61, 0xFF, 0x0A] = .error ⟨1, some 1⟩ := by decide +kernel
  have hlines := lines_eq_iff.1 (show lines (Utf8.encode " @Gadfly no\r\n\t\nyes\n" ++
      [0x61, 0xFF, 0x0A] ++ Utf8.encode "exit") =
    [" @Gadfly no\r\n", "\t\n", "yes\n"].map Utf8.encode ++
      [[0x61, 0xFF, 0x0A], Utf8.encode "exit"] by decide +kernel)
  have hends : Ends [[0x61, 0xFF, 0x0A], Utf8.encode "exit"] [⟨1, some 1⟩] :=
    .garbled (Utf8.encode_ne_of_fault hfault) hfault _
  have hheard : heard [" @Gadfly no\r\n", "\t\n", "yes\n"] 1 =
      [("@Gadfly no", 1), ("yes", 2)] := by
    decide +kernel
  have hread := (read_hears_lines "gadfly" "you" clock _).2 _ _ _
    ⟨hlines.1, hlines.2, by decide +kernel, hends⟩
  rw [hread, hheard]
  decide +kernel

end Terminal

end Gadfly
