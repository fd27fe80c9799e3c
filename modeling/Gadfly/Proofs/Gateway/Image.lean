/-
  Gadfly.Proofs.Gateway.Image

  Encounters that go the same way.

  An `Encounter` may be changed so that whatever happens in the changed one goes as in the first:
  the listener delivers the same and sends the same frames, each of them changed in its way
  (`Encounter.Image`). When this is so of every single thing that happens, it is so of all moves
  (`playAll`), and of what is seen of them (`Sighting.mapSent`).

  Main definitions: `Sighting.mapSent`, `Encounter.Image`.
  Main statements: `Encounter.Image.go`, `Encounter.Image.play`, `Encounter.Image.playAll`.
-/

import Mathlib.Tactic.SplitIfs
import Gadfly.Discord.Encounter

namespace Gadfly.Discord

/-- What is seen, with the frames that were sent changed. -/
def Sighting.mapSent (frame : Outgoing → Outgoing) : Sighting → Sighting
  | .seen sent delivered waited connected ended =>
    .seen (sent.map frame) delivered waited connected ended
  | .noShow ended => .noShow ended

@[simp] theorem Sighting.mapSent_id (sighting : Sighting) : sighting.mapSent id = sighting := by
  cases sighting with
  | seen sent => rw [mapSent, List.map_id]
  | noShow => rfl

namespace Encounter

/-- A change of encounters, and one of frames that goes with it: what happens is the same, and so
is all that can be seen of the listener. -/
structure Image (change : Encounter → Encounter) (frame : Outgoing → Outgoing) : Prop where
  happen_eq : ∀ e happening, (change e).happen happening =
    (change (e.happen happening).1, (e.happen happening).2.1.map frame, (e.happen happening).2.2)
  dialing_iff : ∀ e, (change e).listener.phase = .dialing ↔ e.listener.phase = .dialing
  isConnected_eq : ∀ e, (change e).listener.isConnected = e.listener.isConnected
  ended_eq : ∀ e, (change e).ended = e.ended
  /-- The frames that nobody has seen yet are changed, too. -/
  unseen_eq : ∀ e unseen,
    ({ change e with unseen := unseen.map frame } : Encounter) = change { e with unseen }
  restart_eq : ∀ e, ({ change e with listener := .fresh, taken := true } : Encounter) =
    change { e with listener := .fresh, taken := true }

namespace Image

variable {change : Encounter → Encounter} {frame : Outgoing → Outgoing} (h : Image change frame)
include h

theorem unseen (e : Encounter) : (change e).unseen = e.unseen.map frame := by
  have hsame := h.unseen_eq e e.unseen
  exact congrArg Encounter.unseen hsame.symm

theorem go (e : Encounter) (happenings : List Happening) :
    (change e).go happenings =
      (change (e.go happenings).1, (e.go happenings).2.1.map frame, (e.go happenings).2.2) := by
  induction happenings generalizing e with
  | nil => rfl
  | cons happening rest ih => simp only [Encounter.go, h.happen_eq, ih, List.map_append]

theorem tick (e : Encounter) : (change e).tick = change e.tick := by
  rw [Encounter.tick, h.go, Encounter.tick]
  simp only [h.unseen, ← List.map_append, h.unseen_eq]

theorem await (left waited : Nat) (e : Encounter) :
    Encounter.await left waited (change e) =
      ((Encounter.await left waited e).1, change (Encounter.await left waited e).2) := by
  -- In both, the listener wants to connect after the same number of seconds.
  induction left generalizing waited e with
  | zero =>
    rw [Encounter.await, Encounter.await]
    simp only [h.dialing_iff]
    split_ifs <;> rfl
  | succ left ih =>
    rw [Encounter.await, Encounter.await]
    simp only [h.dialing_iff]
    split_ifs
    · rfl
    · rw [h.tick]
      exact ih (waited + 1) e.tick

theorem observe (waited : Option Nat) (e : Encounter) (sent : List Outgoing)
    (delivered : List Event) :
    Encounter.observe waited (change e, sent.map frame, delivered) =
      ((Encounter.observe waited (e, sent, delivered)).1.mapSent frame,
        change (Encounter.observe waited (e, sent, delivered)).2) := by
  have hnone := h.unseen_eq e []
  rw [List.map_nil] at hnone
  rw [Encounter.observe, Encounter.observe, h.isConnected_eq, h.ended_eq, h.unseen, hnone,
    ← List.map_append]
  rfl

theorem receive (e : Encounter) (signal : Signal) :
    (change e).receive signal =
      ((e.receive signal).1.mapSent frame, change (e.receive signal).2) := by
  rw [Encounter.receive, h.await, Encounter.receive]
  obtain ⟨_ | waited, later⟩ := Encounter.await patience 0 e
  · simp only [h.ended_eq]
    rfl
  · have hnone := h.unseen_eq later []
    rw [List.map_nil] at hnone
    simp only [hnone, h.happen_eq, h.observe]

theorem play (e : Encounter) (move : Move) :
    (change e).play move = ((e.play move).1.mapSent frame, change (e.play move).2) := by
  cases move with
  | accept => exact h.receive e _
  | reject status => exact h.receive e _
  | send texts => rw [Encounter.play, h.go, h.observe, Encounter.play]
  | advance ms => rw [Encounter.play, h.go, h.observe, Encounter.play]
  | restart =>
    rw [Encounter.play, h.restart_eq]
    exact h.observe none { e with listener := .fresh, taken := true } [] []
  | _ => rw [Encounter.play, h.happen_eq, h.observe, Encounter.play]

/-- Of all moves the same is seen by `playAll`, but for the change of the frames. -/
theorem playAll (e : Encounter) (moves : List Move) :
    (change e).playAll moves = (e.playAll moves).map (Sighting.mapSent frame) := by
  induction moves generalizing e with
  | nil => rfl
  | cons move rest ih => simp only [Encounter.playAll, h.play, ih, List.map_cons]

end Image

end Encounter

end Gadfly.Discord
