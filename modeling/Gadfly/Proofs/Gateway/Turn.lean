/-
  Gadfly.Proofs.Gateway.Turn

  What a listener does with one signal.

  `Turn` lists all that can come of a `Signal`, each with the condition under which it does, and
  `Ends` the ways in which a session ends. What is said of whole runs is derived from these lists;
  the definition of `Listener.step` is not opened again.

  Main definitions: `announcement?`, `greeting?`, `Ends`, `Unmoved`, `Turn`.
  Main statements: `turn_step`.
-/

import Gadfly.Discord.Encounter

namespace Gadfly.Discord

/-- The message that a text announces after the greeting: the text is a frame with the operation
and the name for it, its data is a posted message, and the bot listens to the channel. -/
def announcement? (account : Account) (content : String) : Option Message :=
  (readFrame? content).bind fun frame =>
    if frame.op = opDispatch ∧ frame.name = some "MESSAGE_CREATE" then
      (Post.ofJson? frame.data).bind fun post =>
        if account.listensTo post.channel then some post.toMessage else none
    else none

/-- The time between heartbeats that a text asks for, if it is a greeting. -/
def greeting? (content : String) : Option Nat :=
  (readFrame? content).bind fun frame =>
    if frame.op = opHello then heartbeatInterval? frame else none

/-- Whether the listener has a session: it wants to connect or is connected. -/
def Phase.isBusy : Phase → Bool
  | .dialing | .greeting | .listening _ => true
  | .resting _ | .over => false

/-- Whether a signal is something that comes, or goes wrong, on a connection. -/
def Signal.isIncoming : Signal → Bool
  | .text _ | .binary | .closed _ | .dropped | .unwritten _ => true
  | .accepted | .rejected _ | .clock => false

/-- The ways in which a session ends, by the `Phase` of the listener and the `Signal`. -/
inductive Ends (moment : Moment) : Phase → Signal → Ending → Prop
  | refused (status : Nat) : Ends moment .dialing (.rejected status) (Moment.refused status)
  | unreadable {content : String} (hread : readFrame? content = none) :
      Ends moment .greeting (.text content) Moment.unreadable
  | unmeasured {content : String} {frame : Frame} (hread : readFrame? content = some frame)
      (hop : frame.op = opHello) (hinterval : heartbeatInterval? frame = none) :
      Ends moment .greeting (.text content) Moment.unmeasured
  | closedEarly (code : Option Nat) : Ends moment .greeting (.closed code) .reconnect
  | brokenEarly : Ends moment .greeting .dropped Moment.broken
  | unwrittenEarly (reason : String) :
      Ends moment .greeting (.unwritten reason) (Moment.unwritten reason)
  | dismissed {session : Session} {content : String} {frame : Frame}
      (hread : readFrame? content = some frame)
      (hop : frame.op = opReconnect ∨ frame.op = opInvalidSession) :
      Ends moment (.listening session) (.text content) .reconnect
  | deserted {session : Session} {content : String} {message : Message}
      (hmessage : announcement? moment.account content = some message)
      (htaken : moment.taken = false) :
      Ends moment (.listening session) (.text content) .deserted
  | closed (session : Session) (code : Option Nat) :
      Ends moment (.listening session) (.closed code) (Moment.closing code)
  | broken (session : Session) : Ends moment (.listening session) .dropped Moment.broken
  | unwritten (session : Session) (reason : String) :
      Ends moment (.listening session) (.unwritten reason) (Moment.unwritten reason)
  | unanswered {session : Session} (hdue : session.nextBeat ≤ moment.now)
      (hawaiting : session.awaiting = true) :
      Ends moment (.listening session) .clock .reconnect

/-- The signals of which a listener in a `Phase` takes no notice. -/
inductive Unmoved (moment : Moment) : Phase → Signal → Prop
  | accepted {phase : Phase} (hphase : phase ≠ .dialing) : Unmoved moment phase .accepted
  | rejected {phase : Phase} (status : Nat) (hphase : phase ≠ .dialing) :
      Unmoved moment phase (.rejected status)
  | binary {phase : Phase} (hphase : phase.isConnected = true) : Unmoved moment phase .binary
  /-- Nothing comes where there is no connection. -/
  | unconnected {phase : Phase} {signal : Signal} (hphase : phase.isConnected = false)
      (hsignal : signal.isIncoming = true) : Unmoved moment phase signal
  | early {content : String} {frame : Frame} (hread : readFrame? content = some frame)
      (hop : frame.op ≠ opHello) : Unmoved moment .greeting (.text content)
  | garbled {session : Session} {content : String} (hread : readFrame? content = none) :
      Unmoved moment (.listening session) (.text content)
  | undue {session : Session} (hdue : moment.now < session.nextBeat) :
      Unmoved moment (.listening session) .clock
  | asleep {wakeAt : Nat} (hwake : moment.now < wakeAt) : Unmoved moment (.resting wakeAt) .clock
  | timeless {phase : Phase} (hphase : phase = .dialing ∨ phase = .greeting ∨ phase = .over) :
      Unmoved moment phase .clock

/-- All that can come of a `Signal`: one constructor for each way in which `Listener.step` can
go. -/
inductive Turn (moment : Moment) (backoff : Nat) : Phase → Signal → Reaction → Prop
  | ended {phase : Phase} {signal : Signal} {ending : Ending}
      (hends : Ends moment phase signal ending) :
      Turn moment backoff phase signal (moment.conclude backoff [] ending)
  | accepted : Turn moment backoff .dialing .accepted ⟨⟨.greeting, backoff⟩, [], []⟩
  | greeted {content : String} {interval : Nat} (hgreeting : greeting? content = some interval) :
      Turn moment backoff .greeting (.text content)
        ⟨⟨.listening ⟨interval, moment.now + interval, none, false⟩, backoff⟩,
          [.identify moment.account.token moment.account.intents], []⟩
  | announced {session : Session} {content : String} {frame : Frame} {message : Message}
      (hread : readFrame? content = some frame) (hop : frame.op = opDispatch)
      (hmessage : announcement? moment.account content = some message)
      (htaken : moment.taken = true) :
      Turn moment backoff (.listening session) (.text content)
        (Moment.goOn backoff (session.note frame) [] [.ok message])
  | requested {session : Session} {content : String} {frame : Frame}
      (hread : readFrame? content = some frame) (hop : frame.op = opHeartbeat) :
      Turn moment backoff (.listening session) (.text content)
        (Moment.goOn backoff (session.note frame) [.heartbeat (session.note frame).sequence] [])
  | acknowledged {session : Session} {content : String} {frame : Frame}
      (hread : readFrame? content = some frame) (hop : frame.op = opAcknowledge) :
      Turn moment backoff (.listening session) (.text content)
        (Moment.goOn backoff { session.note frame with awaiting := false } [] [])
  | noted {session : Session} {content : String} {frame : Frame}
      (hread : readFrame? content = some frame)
      (hmessage : announcement? moment.account content = none)
      (hheartbeat : frame.op ≠ opHeartbeat) (hacknowledge : frame.op ≠ opAcknowledge)
      (hdismiss : ¬(frame.op = opReconnect ∨ frame.op = opInvalidSession)) :
      Turn moment backoff (.listening session) (.text content)
        (Moment.goOn backoff (session.note frame) [] [])
  | struck {session : Session} (hdue : session.nextBeat ≤ moment.now)
      (hawaiting : session.awaiting = false) :
      Turn moment backoff (.listening session) .clock
        (Moment.goOn backoff
          { session with awaiting := true, nextBeat := session.nextBeat + session.interval }
          [.heartbeat session.sequence] [])
  | woken {wakeAt : Nat} (hwake : wakeAt ≤ moment.now) :
      Turn moment backoff (.resting wakeAt) .clock ⟨⟨.dialing, backoff⟩, [], []⟩
  | unmoved {phase : Phase} {signal : Signal} (hunmoved : Unmoved moment phase signal) :
      Turn moment backoff phase signal ⟨⟨phase, backoff⟩, [], []⟩

/-- A session that ends was there. -/
theorem Ends.isBusy {moment : Moment} {phase : Phase} {signal : Signal} {ending : Ending}
    (h : Ends moment phase signal ending) : phase.isBusy = true := by
  cases h <;> rfl

/-- At the end of a session the listener rests or stops. -/
theorem Moment.isBusy_conclude (moment : Moment) (backoff : Nat) (sent : List Outgoing)
    (ending : Ending) : (moment.conclude backoff sent ending).listener.phase.isBusy = false := by
  cases ending with
  | failed fault =>
    rw [Moment.conclude]
    split <;> rfl
  | _ => rfl

/-- The end of a session adds nothing to what is sent. -/
theorem Moment.sent_conclude (moment : Moment) (backoff : Nat) (sent : List Outgoing)
    (ending : Ending) : (moment.conclude backoff sent ending).sent = sent := by
  cases ending with
  | failed fault =>
    rw [Moment.conclude]
    split <;> rfl
  | _ => rfl

/-! ## The list is complete -/

variable {moment : Moment} {backoff : Nat} {content : String} {frame : Frame} {session : Session}

theorem announcement?_of_op_ne {account : Account} (hread : readFrame? content = some frame)
    (hop : frame.op ≠ opDispatch) : announcement? account content = none := by
  rw [announcement?, hread, Option.bind_some, if_neg fun h => hop h.1]

theorem exists_frame_of_announcement? {account : Account} {message : Message}
    (h : announcement? account content = some message) :
    ∃ frame, readFrame? content = some frame ∧ frame.op = opDispatch := by
  obtain ⟨frame, hread, hmessage⟩ := Option.bind_eq_some_iff.1 h
  by_cases hop : frame.op = opDispatch
  · exact ⟨frame, hread, hop⟩
  · rw [announcement?_of_op_ne hread hop] at h
    cases h

theorem exists_frame_of_greeting? {interval : Nat} (h : greeting? content = some interval) :
    ∃ frame, readFrame? content = some frame ∧ frame.op = opHello ∧
      heartbeatInterval? frame = some interval := by
  obtain ⟨frame, hread, hinterval⟩ := Option.bind_eq_some_iff.1 h
  split at hinterval
  · rename_i hop
    exact ⟨frame, hread, hop, hinterval⟩
  · cases hinterval

/-- What a dispatched frame announces, put together from the steps of its reading. -/
theorem announcement?_of_op_eq (account : Account) (hread : readFrame? content = some frame)
    (hop : frame.op = opDispatch) :
    announcement? account content =
      (announced? frame).bind fun message =>
        if account.listensTo message.channel then some message else none := by
  rw [announcement?, hread, Option.bind_some, announced?]
  by_cases hname : frame.name = some "MESSAGE_CREATE"
  · rw [if_pos ⟨hop, hname⟩, if_pos hname]
    cases Post.ofJson? frame.data with
    | none => rfl
    | some post => rfl
  · rw [if_neg fun h => hname h.2, if_neg hname]
    rfl

theorem turn_greet :
    Turn moment backoff .greeting (.text content) (moment.greet backoff content) := by
  rw [Moment.greet]
  rcases hread : readFrame? content with _ | frame
  · exact .ended (.unreadable hread)
  by_cases hop : frame.op = opHello
  · simp only [hop, if_true]
    rcases hinterval : heartbeatInterval? frame with _ | interval
    · exact .ended (.unmeasured hread hop hinterval)
    · refine .greeted ?_
      rw [greeting?, hread, Option.bind_some, if_pos hop, hinterval]
  · simp only [hop, if_false]
    exact .unmoved (.early hread hop)

theorem turn_dispatch (hread : readFrame? content = some frame) (hop : frame.op = opDispatch) :
    Turn moment backoff (.listening session) (.text content)
      (moment.dispatch backoff (session.note frame) frame) := by
  have hannounced := announcement?_of_op_eq moment.account hread hop
  have hnoted (hmessage : announcement? moment.account content = none) :
      Turn moment backoff (.listening session) (.text content)
        (Moment.goOn backoff (session.note frame) [] []) :=
    .noted hread hmessage (by rw [hop]; decide) (by rw [hop]; decide) (by rw [hop]; decide)
  rw [Moment.dispatch]
  rcases hmessage : announced? frame with _ | message
  · rw [hmessage] at hannounced
    exact hnoted hannounced
  · rw [hmessage, Option.bind_some] at hannounced
    simp only
    rcases hlistens : moment.account.listensTo message.channel with _ | _
    · rw [hlistens, if_neg Bool.false_ne_true] at hannounced
      exact hnoted hannounced
    · rw [hlistens, if_pos rfl] at hannounced
      rcases htaken : moment.taken with _ | _
      · exact .ended (.deserted hannounced htaken)
      · exact .announced hread hop hannounced htaken

theorem turn_hear :
    Turn moment backoff (.listening session) (.text content)
      (moment.hear backoff session content) := by
  rw [Moment.hear]
  rcases hread : readFrame? content with _ | frame
  · exact .unmoved (.garbled hread)
  · by_cases hdispatch : frame.op = opDispatch
    · simp only [hdispatch, if_true]
      exact turn_dispatch hread hdispatch
    simp only [hdispatch, if_false]
    by_cases hheartbeat : frame.op = opHeartbeat
    · simp only [hheartbeat, if_true]
      exact .requested hread hheartbeat
    simp only [hheartbeat, if_false]
    by_cases hacknowledge : frame.op = opAcknowledge
    · simp only [hacknowledge, if_true]
      exact .acknowledged hread hacknowledge
    simp only [hacknowledge, if_false]
    by_cases hdismiss : frame.op = opReconnect ∨ frame.op = opInvalidSession
    · simp only [hdismiss, if_true]
      exact .ended (.dismissed hread hdismiss)
    · simp only [hdismiss, if_false]
      exact .noted hread (announcement?_of_op_ne hread hdispatch) hheartbeat hacknowledge hdismiss

theorem turn_beat :
    Turn moment backoff (.listening session) .clock (moment.beat backoff session) := by
  rw [Moment.beat]
  by_cases hdue : moment.now < session.nextBeat
  · rw [if_pos hdue]
    exact .unmoved (.undue hdue)
  · rw [if_neg hdue]
    have hdue := Nat.le_of_not_lt hdue
    rcases hawaiting : session.awaiting with _ | _
    · exact .struck hdue hawaiting
    · exact .ended (.unanswered hdue hawaiting)

theorem turn_wake {wakeAt : Nat} :
    Turn moment backoff (.resting wakeAt) .clock
      (Listener.step moment ⟨.resting wakeAt, backoff⟩ .clock) := by
  simp only [Listener.step]
  by_cases hwake : wakeAt ≤ moment.now
  · rw [if_pos hwake]
    exact .woken hwake
  · rw [if_neg hwake]
    exact .unmoved (.asleep (Nat.lt_of_not_le hwake))

/-- Of a text that comes after the greeting the announced message is delivered, as long as
somebody takes it, and nothing else. -/
theorem Turn.delivered_of_text {reaction : Reaction} (htaken : moment.taken = true)
    (h : Turn moment backoff (.listening session) (.text content) reaction) :
    reaction.delivered = (announcement? moment.account content).toList.map .ok := by
  cases h with
  | ended hends =>
    cases hends with
    | @dismissed _ _ frame hread hop =>
      -- A frame that ends the session does not announce anything as well.
      have hnot : frame.op ≠ opDispatch := by
        intro hdispatch
        rw [hdispatch] at hop
        revert hop
        decide
      rw [announcement?_of_op_ne hread hnot]
      rfl
    | deserted _ hdeserted =>
      rw [htaken] at hdeserted
      cases hdeserted
  | announced _ _ hmessage _ =>
    rw [hmessage]
    rfl
  | requested hread hop =>
    rw [announcement?_of_op_ne hread (by rw [hop]; decide)]
    rfl
  | acknowledged hread hop =>
    rw [announcement?_of_op_ne hread (by rw [hop]; decide)]
    rfl
  | noted _ hmessage _ _ _ =>
    rw [hmessage]
    rfl
  | unmoved hunmoved =>
    cases hunmoved with
    | unconnected hconnected _ => cases hconnected
    | garbled hread =>
      rw [announcement?, hread]
      rfl

/-- A message is delivered only of a text that announces it. -/
theorem Turn.exists_of_ok_mem {phase : Phase} {signal : Signal} {reaction : Reaction}
    {message : Message} (h : Turn moment backoff phase signal reaction)
    (hmessage : .ok message ∈ reaction.delivered) :
    ∃ content, signal = .text content ∧ announcement? moment.account content = some message := by
  cases h with
  | ended hends =>
    -- The end of a session is told of by a failure, if at all.
    rename_i ending
    cases ending with
    | failed fault =>
      rw [Moment.conclude] at hmessage
      split at hmessage <;> simp at hmessage
    | fatal fault =>
      rw [Moment.conclude] at hmessage
      split at hmessage <;> simp at hmessage
    | _ => cases hmessage
  | announced _ _ hannounced _ =>
    obtain rfl := Except.ok.inj (List.mem_singleton.1 hmessage)
    exact ⟨_, rfl, hannounced⟩
  | _ => cases hmessage

/-- Whatever happens, what `Listener.step` does is a `Turn`. -/
theorem turn_step (moment : Moment) (listener : Listener) (signal : Signal) :
    Turn moment listener.backoff listener.phase signal (listener.step moment signal) := by
  obtain ⟨phase, backoff⟩ := listener
  -- A phase waits for some signals, and takes no notice of all others.
  cases phase with
  | dialing =>
    cases signal with
    | accepted => exact .accepted
    | rejected status => exact .ended (.refused status)
    | text content => exact .unmoved (.unconnected rfl rfl)
    | binary => exact .unmoved (.unconnected rfl rfl)
    | closed code => exact .unmoved (.unconnected rfl rfl)
    | dropped => exact .unmoved (.unconnected rfl rfl)
    | unwritten reason => exact .unmoved (.unconnected rfl rfl)
    | clock => exact .unmoved (.timeless (.inl rfl))
  | greeting =>
    cases signal with
    | accepted => exact .unmoved (.accepted Phase.noConfusion)
    | rejected status => exact .unmoved (.rejected status Phase.noConfusion)
    | text content => exact turn_greet
    | binary => exact .unmoved (.binary rfl)
    | closed code => exact .ended (.closedEarly code)
    | dropped => exact .ended .brokenEarly
    | unwritten reason => exact .ended (.unwrittenEarly reason)
    | clock => exact .unmoved (.timeless (.inr (.inl rfl)))
  | listening session =>
    cases signal with
    | accepted => exact .unmoved (.accepted Phase.noConfusion)
    | rejected status => exact .unmoved (.rejected status Phase.noConfusion)
    | text content => exact turn_hear
    | binary => exact .unmoved (.binary rfl)
    | closed code => exact .ended (.closed session code)
    | dropped => exact .ended (.broken session)
    | unwritten reason => exact .ended (.unwritten session reason)
    | clock => exact turn_beat
  | resting wakeAt =>
    cases signal with
    | accepted => exact .unmoved (.accepted Phase.noConfusion)
    | rejected status => exact .unmoved (.rejected status Phase.noConfusion)
    | text content => exact .unmoved (.unconnected rfl rfl)
    | binary => exact .unmoved (.unconnected rfl rfl)
    | closed code => exact .unmoved (.unconnected rfl rfl)
    | dropped => exact .unmoved (.unconnected rfl rfl)
    | unwritten reason => exact .unmoved (.unconnected rfl rfl)
    | clock => exact turn_wake
  | «over» =>
    cases signal with
    | accepted => exact .unmoved (.accepted Phase.noConfusion)
    | rejected status => exact .unmoved (.rejected status Phase.noConfusion)
    | text content => exact .unmoved (.unconnected rfl rfl)
    | binary => exact .unmoved (.unconnected rfl rfl)
    | closed code => exact .unmoved (.unconnected rfl rfl)
    | dropped => exact .unmoved (.unconnected rfl rfl)
    | unwritten reason => exact .unmoved (.unconnected rfl rfl)
    | clock => exact .unmoved (.timeless (.inr (.inr rfl)))

end Gadfly.Discord
