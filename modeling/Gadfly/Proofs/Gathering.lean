/-
  Gadfly.Proofs.Gathering

  What is gathered into a transcript.

  A history comes newest first, may be longer than was asked for, and may contain the message
  itself, even more than once. It can be gone through once, from the newest message on, with the
  line of each message put in front of the lines that are there (`Transcript.keep`): the message
  itself is passed over, and after enough lines all else is (`build_lines`). What is kept at any
  time are the newest messages so far (`Newest`, `kept_foldl`).

  `Transcript.gather` asks the transport for one history, or for none if no earlier messages are
  wanted, and has no part in any other call (`held_gather`).

  Main definitions: `Newest`, `Transcript.others`, `Transcript.keep`.
  Main statements: `Transcript.build_lines`, `Transcript.held_gather`, `Transcript.gather_newest`.
-/

import Mathlib.Data.List.Basic
import Mathlib.Data.List.Induction
import Gadfly.Proofs.Course

namespace Gadfly

open Dialogue

/-! ## The newest of some messages -/

section Newest

variable {α : Type} {count : Nat} {all chosen : List α}

/-- Of a list that goes from the newest to the oldest, the newest `count`: nothing is left out
between them, and there are fewer only if there are not more. -/
structure Newest (count : Nat) (all chosen : List α) : Prop where
  isPrefix : chosen <+: all
  length_eq : chosen.length = min count all.length

theorem newest_nil : Newest count ([] : List α) [] where
  isPrefix := List.prefix_rfl
  length_eq := (Nat.min_zero count).symm

/-- As long as there is room, all are chosen. -/
theorem Newest.eq_of_lt (h : Newest count all chosen) (hroom : chosen.length < count) :
    chosen = all := by
  have hlength := h.length_eq
  exact h.isPrefix.eq_of_length (by omega)

theorem Newest.concat (h : Newest count all chosen) (hroom : chosen.length < count) (older : α) :
    Newest count (all ++ [older]) (chosen ++ [older]) where
  isPrefix := by
    obtain rfl := h.eq_of_lt hroom
    exact List.prefix_rfl
  length_eq := by
    have hlength := h.length_eq
    rw [List.length_append, List.length_append, List.length_singleton]
    omega

/-- When there are enough, older ones make no difference. -/
theorem Newest.concat_of_full (h : Newest count all chosen) (hfull : count ≤ chosen.length)
    (older : α) : Newest count (all ++ [older]) chosen where
  isPrefix := h.isPrefix.trans (List.prefix_append all [older])
  length_eq := by
    have hlength := h.length_eq
    rw [List.length_append, List.length_singleton]
    omega

/-- There is one choice of the newest. -/
theorem newest_iff : Newest count all chosen ↔ chosen = all.take count := by
  constructor
  · intro h
    have htake : chosen = all.take chosen.length := List.prefix_iff_eq_take.1 h.isPrefix
    have hlength := h.length_eq
    rw [htake, List.take_eq_take_iff]
    omega
  · rintro rfl
    exact ⟨List.take_prefix count all, List.length_take⟩

end Newest

namespace Transcript

variable {most count : Nat} {message : Message} {done chosen history : List Message}
  {lines : List Line}

/-! ## A history gone through once -/

/-- The messages of a history but for one message, which is known by its `id`. -/
def others (message : Message) (history : List Message) : List Message :=
  history.filter (·.id != message.id)

/-- Goes on to an older message of the history. -/
def keep (most count : Nat) (message : Message) (lines : List Line) (older : Message) :
    List Line :=
  if older.id = message.id ∨ count ≤ lines.length then lines
  else Line.ofMessage most older :: lines

/-- The lines that are there after some messages of the history: those of the newest messages
other than the one in question, from the oldest to the newest. -/
def Kept (most count : Nat) (message : Message) (done : List Message) (lines : List Line) : Prop :=
  ∃ chosen, Newest count (others message done) chosen ∧
    lines = chosen.reverse.map (Line.ofMessage most)

theorem Kept.step (h : Kept most count message done lines) (older : Message) :
    Kept most count message (done ++ [older]) (keep most count message lines older) := by
  obtain ⟨chosen, hchosen, rfl⟩ := h
  have hlength : (chosen.reverse.map (Line.ofMessage most)).length = chosen.length := by
    rw [List.length_map, List.length_reverse]
  rw [keep, hlength]
  by_cases hsame : older.id = message.id
  · -- The message itself is passed over, whether there is room or not.
    have hothers : others message (done ++ [older]) = others message done := by
      simp [others, List.filter_append, hsame]
    rw [if_pos (.inl hsame)]
    exact ⟨chosen, hothers ▸ hchosen, rfl⟩
  · have hothers : others message (done ++ [older]) = others message done ++ [older] := by
      simp [others, List.filter_append, hsame]
    by_cases hfull : count ≤ chosen.length
    · rw [if_pos (.inr hfull)]
      exact ⟨chosen, hothers ▸ hchosen.concat_of_full hfull older, rfl⟩
    · rw [if_neg (not_or.2 ⟨hsame, hfull⟩)]
      refine ⟨chosen ++ [older], hothers ▸ hchosen.concat (Nat.lt_of_not_le hfull) older, ?_⟩
      rw [List.reverse_concat, List.map_cons]

theorem kept_foldl (most count : Nat) (message : Message) (history : List Message) :
    Kept most count message history (history.foldl (keep most count message) []) := by
  induction history using List.reverseRecOn with
  | nil => exact ⟨[], newest_nil, rfl⟩
  | append_singleton done older ih =>
    rw [List.foldl_concat]
    exact ih.step older

/-- The lines of a transcript (`build`) are those that one pass over the history leaves (`keep`),
and the line of the message. -/
theorem build_lines (most count : Nat) (message : Message) (history : List Message) :
    (build most count message history).lines =
      history.foldl (keep most count message) [] ++ [Line.ofMessage most message] := by
  obtain ⟨chosen, hchosen, hlines⟩ := kept_foldl most count message history
  rw [hlines, newest_iff.1 hchosen, List.map_reverse]
  rfl

/-- Whatever the history, a text has at most one character more than is kept of it. -/
theorem length_text_build (most count : Nat) (message : Message) (history : List Message) :
    ∀ line ∈ (build most count message history).lines, line.text.length ≤ most + 1 := by
  have hofMessage (other : Message) : (Line.ofMessage most other).text.length ≤ most + 1 := by
    rw [Line.ofMessage, truncate, String.length_ofList]
    exact length_cut_le most _
  intro line hline
  rw [build, List.mem_append, List.mem_reverse, List.mem_singleton, List.mem_map] at hline
  rcases hline with ⟨other, -, rfl⟩ | rfl
  · exact hofMessage other
  · exact hofMessage message

/-! ## The transport is asked for it -/

/-- What was heard of a history; nothing when the transport failed. -/
def heardMessages : Except TransportFault (List Message) → List Message
  | .ok history => history
  | .error _ => []

section Gather

variable {σ : Type} {partner : Partner σ} {s : σ} {heard : Except TransportFault (List Message)}

/-- A transcript is made of the answer to one call of `history`, which is made if earlier messages
are wanted. A failure is reported (`Notice.noHistory`), and that is all there is to it. -/
theorem held_gather (most : Nat) (hreports : partner.TakesReports) (hheard : count ≠ 0 →
      (partner s (.history message.channel message.id count)).1 = some heard) :
    ∃ trace t, Held partner (gather most count message) s trace
        (some (build most count message (heardMessages heard))) t ∧
      Exchange.external trace = if count = 0 then []
        else [⟨.history message.channel message.id count, some heard⟩] := by
  rw [gather]
  by_cases hcount : count = 0
  · subst hcount
    rw [if_pos rfl]
    have hnone : build most 0 message [] = build most 0 message (heardMessages heard) := by
      simp [build]
    exact ⟨[], s, ⟨rfl, congrArg (fun transcript => (some transcript, s)) hnone⟩, rfl⟩
  · -- The one call is made, and only a failure has something after it.
    rw [if_neg hcount, if_neg hcount]
    obtain ⟨t, hanswer⟩ : ∃ t, partner s (.history message.channel message.id count) =
        (some heard, t) := ⟨_, Prod.ext (hheard hcount) rfl⟩
    have hcall := held_call hanswer
    cases heard with
    | ok messages => exact ⟨_, t, hcall.bind ⟨rfl, rfl⟩, rfl⟩
    | error fault =>
      obtain ⟨u, hreport⟩ := hreports t (.noHistory message fault)
      exact ⟨_, u, hcall.bind ((held_call hreport).bind ⟨rfl, rfl⟩), rfl⟩

/-- A transcript (`gather`) asks the transport for one history if earlier messages are wanted, and
for nothing else. It ends with the line of the message; before it come the lines of the `Newest`
other messages that were heard, as many as are wanted or as there are, from the oldest to the
newest. When no history is to be had, the message stands alone. -/
theorem gather_newest (most count : Nat) (message : Message) (hreports : partner.TakesReports)
    (hheard : count ≠ 0 →
      (partner s (.history message.channel message.id count)).1 = some heard) :
    ∃ transcript, ((gather most count message).run partner s).1 = some transcript ∧
      Exchange.external ((gather most count message).exchanges partner s) =
        (if count = 0 then [] else [⟨.history message.channel message.id count, some heard⟩]) ∧
      (∃ chosen, Newest count (others message (heardMessages heard)) chosen ∧
        transcript.lines = chosen.reverse.map (Line.ofMessage most) ++
          [Line.ofMessage most message]) ∧
      transcript.lines.length ≤ count + 1 ∧
      (∀ line ∈ transcript.lines, line.text.length ≤ most + 1) ∧
      ∀ fault, heard = .error fault → transcript.lines = [Line.ofMessage most message] := by
  obtain ⟨trace, t, hheld, htrace⟩ := held_gather most hreports hheard
  refine ⟨build most count message (heardMessages heard), ?_, ?_, ?_,
    length_build_le most count message _, length_text_build most count message _, ?_⟩
  · rw [hheld.run_eq]
  · rw [hheld.exchanges_eq, htrace]
  · obtain ⟨chosen, hchosen, hlines⟩ :=
      kept_foldl most count message (heardMessages heard)
    exact ⟨chosen, hchosen, by rw [build_lines, hlines]⟩
  · rintro fault rfl
    rw [build_lines]
    rfl

end Gather

section Scene

open Rehearsal

def saying (id content : String) : Message :=
  { claim with id := id, content := content }

/-- A history with the message itself in it twice, and another message twice. -/
def crowd : List Message :=
  [saying "7" "last", saying "6" "four", saying "7" "again", saying "5" "three", saying "5" "three",
    saying "4" "two"]

/-- A transport that hands out all of it, however little is asked for. -/
def crowded : Set :=
  .fresh
    { selfId := "bot-1", history := .ok crowd, ignoresLimit := true, typing := .ok (),
      sends := [] }
    [] none

/-- Two of the other messages come before the message itself, each cut to four characters. -/
theorem gather_newest_of_crowd :
    ∃ transcript, ((gather 4 2 claim).run partner crowded).1 = some transcript ∧
      Exchange.external ((gather 4 2 claim).exchanges partner crowded) =
        [⟨.history "general" "7" 2, some (.ok crowd)⟩] ∧
      transcript.lines = [⟨"alice", "thre…"⟩, ⟨"alice", "four"⟩, ⟨"alice", "pine…"⟩] := by
  have hreports : partner.TakesReports := fun s notice => ⟨_, rfl⟩
  have hheard : 2 ≠ 0 →
      (partner crowded (.history claim.channel claim.id 2)).1 = some (.ok crowd) := fun _ => rfl
  obtain ⟨transcript, hrun, htrace, -⟩ := gather_newest 4 2 claim hreports hheard
  refine ⟨transcript, hrun, htrace, ?_⟩
  have hvalue : ((gather 4 2 claim).run partner crowded).1.map lines =
      some [⟨"alice", "thre…"⟩, ⟨"alice", "four"⟩, ⟨"alice", "pine…"⟩] := by decide +kernel
  rw [hrun] at hvalue
  exact Option.some.inj hvalue

end Scene

end Transcript

end Gadfly
