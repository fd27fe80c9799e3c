/-
  Gadfly.Proofs.Gateway.Mask

  The token at the gateway.

  The listener uses its token once in each connection, to say who it is (`Outgoing.identify`), and
  for nothing else. An encounter in which the token is masked goes the same way, with the token
  masked in the frames, so two encounters that differ in their tokens deliver the same, and send
  the same frames but for the tokens.

  Main definitions: `Outgoing.masked`, `Account.masked`, `Encounter.masked`.
  Main statements: `Listener.step_masked`, `Encounter.image_masked`, `Encounter.go_of_masked_eq`,
  `Encounter.playAll_of_masked_eq`.
-/

import Gadfly.Proofs.Gateway.Image

namespace Gadfly.Discord

/-- A frame without a token, which only `Outgoing.identify` has. -/
def Outgoing.masked : Outgoing → Outgoing
  | .identify _ intents => .identify "" intents
  | .heartbeat sequence => .heartbeat sequence

def Account.masked (account : Account) : Account :=
  { account with token := "" }

def Moment.masked (moment : Moment) : Moment :=
  { moment with account := moment.account.masked }

def Reaction.masked (reaction : Reaction) : Reaction :=
  { reaction with sent := reaction.sent.map Outgoing.masked }

/-- An encounter without tokens: neither the listener knows one, nor do the frames that nobody has
seen yet. -/
def Encounter.masked (e : Encounter) : Encounter :=
  { e with account := e.account.masked, unseen := e.unseen.map Outgoing.masked }

section Step

variable (moment : Moment) (backoff : Nat)

theorem Moment.conclude_masked (ending : Ending) :
    moment.masked.conclude backoff [] ending = (moment.conclude backoff [] ending).masked := by
  cases ending with
  | failed fault =>
    have htaken : moment.masked.taken = moment.taken := rfl
    rw [conclude, conclude, htaken]
    split <;> rfl
  | _ => rfl

theorem Moment.greet_masked (text : String) :
    moment.masked.greet backoff text = (moment.greet backoff text).masked := by
  rw [greet, greet]
  split
  · exact moment.conclude_masked backoff _
  · split
    · split
      · -- Here the listener says who it is.
        rfl
      · exact moment.conclude_masked backoff _
    · rfl

theorem Moment.dispatch_masked (session : Session) (frame : Frame) :
    moment.masked.dispatch backoff session frame =
      (moment.dispatch backoff session frame).masked := by
  have hlistens (channel : String) :
      moment.masked.account.listensTo channel = moment.account.listensTo channel := rfl
  have htaken : moment.masked.taken = moment.taken := rfl
  rw [dispatch, dispatch, htaken]
  simp only [hlistens, conclude_masked]
  split
  · rfl
  · split_ifs <;> rfl

theorem Moment.hear_masked (session : Session) (text : String) :
    moment.masked.hear backoff session text = (moment.hear backoff session text).masked := by
  rw [hear, hear]
  split
  · rfl
  · simp only [dispatch_masked, conclude_masked]
    split_ifs <;> rfl

theorem Moment.beat_masked (session : Session) :
    moment.masked.beat backoff session = (moment.beat backoff session).masked := by
  have hnow : moment.masked.now = moment.now := rfl
  rw [beat, beat, conclude_masked, hnow]
  split_ifs <;> rfl

/-- A `step` without a token is the same step, and sends the same without the token. -/
theorem Listener.step_masked (listener : Listener) (signal : Signal) :
    listener.step moment.masked signal = (listener.step moment signal).masked := by
  obtain ⟨phase, backoff⟩ := listener
  -- No phase looks at the token. It only gets into the frame that answers the greeting.
  cases phase with
  | dialing =>
    cases signal with
    | rejected status => exact moment.conclude_masked backoff (Moment.refused status)
    | _ => rfl
  | greeting =>
    cases signal with
    | text content => exact moment.greet_masked backoff content
    | closed code => exact moment.conclude_masked backoff .reconnect
    | dropped => exact moment.conclude_masked backoff Moment.broken
    | unwritten reason => exact moment.conclude_masked backoff (Moment.unwritten reason)
    | _ => rfl
  | listening session =>
    cases signal with
    | text content => exact moment.hear_masked backoff session content
    | closed code => exact moment.conclude_masked backoff (Moment.closing code)
    | dropped => exact moment.conclude_masked backoff Moment.broken
    | unwritten reason => exact moment.conclude_masked backoff (Moment.unwritten reason)
    | clock => exact moment.beat_masked backoff session
    | _ => rfl
  | resting wakeAt =>
    cases signal with
    | clock =>
      have hnow : moment.masked.now = moment.now := rfl
      simp only [step, hnow]
      split_ifs <;> rfl
    | _ => rfl
  | «over» => cases signal <;> rfl

end Step

namespace Encounter

theorem happen_masked (e : Encounter) (happening : Happening) :
    e.masked.happen happening =
      ((e.happen happening).1.masked, (e.happen happening).2.1.map Outgoing.masked,
        (e.happen happening).2.2) := by
  cases happening with
  | signal signal =>
    have hstep := e.listener.step_masked e.moment signal
    rw [happen, happen, show e.masked.moment = e.moment.masked from rfl,
      show e.masked.listener = e.listener from rfl, hstep]
    rfl
  | _ => rfl

/-- An encounter without tokens (`masked`) goes the same way. -/
theorem image_masked : Image masked Outgoing.masked where
  happen_eq := happen_masked
  dialing_iff _ := Iff.rfl
  isConnected_eq _ := rfl
  ended_eq _ := rfl
  unseen_eq _ _ := rfl
  restart_eq _ := rfl

variable {e f : Encounter}

/-- Whatever happens in two encounters that are the same but for the tokens (`masked`), they stay
so; the same is delivered, and the same is sent but for the tokens. -/
theorem go_of_masked_eq (h : e.masked = f.masked) (happenings : List Happening) :
    (e.go happenings).1.masked = (f.go happenings).1.masked ∧
      (e.go happenings).2.1.map Outgoing.masked = (f.go happenings).2.1.map Outgoing.masked ∧
      (e.go happenings).2.2 = (f.go happenings).2.2 := by
  have hsame : e.masked.go happenings = f.masked.go happenings := by rw [h]
  rw [image_masked.go, image_masked.go, Prod.mk.injEq, Prod.mk.injEq] at hsame
  exact hsame

/-- Whatever the moves in two encounters that are the same but for the tokens (`masked`), the same
is seen but for the tokens. -/
theorem playAll_of_masked_eq (h : e.masked = f.masked) (moves : List Move) :
    (e.playAll moves).map (Sighting.mapSent Outgoing.masked) =
      (f.playAll moves).map (Sighting.mapSent Outgoing.masked) := by
  rw [← image_masked.playAll, ← image_masked.playAll, h]

end Encounter

end Gadfly.Discord
