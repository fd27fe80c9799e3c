/-
  Gadfly.Proofs.Gateway.Outbound

  What a listener sends.

  On every connection nothing is sent before the greeting; upon the greeting the listener says who
  it is, once (`Outgoing.identify`); and all that it sends after that is an `Outgoing.heartbeat`
  each, with the running number of the last frame after the greeting that had one
  (`Log.Introduced`).

  Main definitions: `Log.Introduced`.
  Main statements: `Tracks.sent_before_greeting`, `Tracks.sent_after_greeting`,
  `outbound_of_sessions`.
-/

import Mathlib.Algebra.Ring.Nat
import Gadfly.Proofs.Gateway.Session

namespace Gadfly.Discord

variable {account : Account} {log : Log} {entry : Entry}

/-! ## What is sent upon one entry -/

/-- A listener that has not been greeted is not in a session of heartbeats. -/
theorem Tracks.ne_listening (h : Tracks log entry.phase) (hgreeting : log.greeting? = none)
    (session : Session) : entry.phase ≠ .listening session := by
  intro hphase
  rw [hphase] at h
  have hsome := h.isSome_greeting?
  rw [hgreeting] at hsome
  cases hsome

/-- Before the `greeting?` nothing is sent. -/
theorem Tracks.sent_before_greeting (h : Tracks log entry.phase) (hgreeting : log.greeting? = none)
    (hinterval : entry.interval? = none) : entry.sent = [] := by
  have hne := h.ne_listening hgreeting
  obtain ⟨signal, hwhat⟩ | ⟨hsilent, -⟩ := entry.signal_or_silent
  swap
  · exact hsilent
  obtain ⟨reaction, hturn, -, hsent, -⟩ := entry.exists_turn hwhat
  rw [hsent]
  generalize hphase : entry.phase = phase at hturn hne
  cases hturn with
  | ended _ => exact Moment.sent_conclude _ _ _ _
  | greeted hgreeting =>
    rw [Entry.interval?, Entry.text?_of_connected hwhat (hphase ▸ rfl), Option.bind_some,
      hgreeting] at hinterval
    cases hinterval
  | requested _ _ => exact absurd rfl (hne _)
  | struck _ _ => exact absurd rfl (hne _)
  | _ => rfl

/-- Upon the greeting the listener says who it is. -/
theorem Tracks.sent_upon_greeting {interval : Nat} (h : Tracks log entry.phase)
    (hgreeting : log.greeting? = none) (hinterval : entry.interval? = some interval) :
    entry.sent = [.identify entry.before.account.token entry.before.account.intents] := by
  have hne := h.ne_listening hgreeting
  obtain ⟨content, htext, hcontent⟩ := Option.bind_eq_some_iff.1 hinterval
  obtain ⟨frame, hread, hop, hframe⟩ := exists_frame_of_greeting? hcontent
  obtain ⟨hwhat, hconnected⟩ := Entry.what_of_text? htext
  obtain ⟨reaction, hturn, -, hsent, -⟩ := entry.exists_turn hwhat
  generalize hphase : entry.phase = phase at hturn hne hconnected
  rw [hsent]
  cases hturn with
  | ended hends =>
    cases hends with
    | unreadable hnone =>
      rw [hread] at hnone
      cases hnone
    | unmeasured hread' _ hnone =>
      rw [hread, Option.some.injEq] at hread'
      rw [← hread', hframe] at hnone
      cases hnone
    | dismissed _ _ => exact absurd rfl (hne _)
    | deserted _ _ => exact absurd rfl (hne _)
  | greeted _ => rfl
  | announced _ _ _ _ => exact absurd rfl (hne _)
  | requested _ _ => exact absurd rfl (hne _)
  | acknowledged _ _ => exact absurd rfl (hne _)
  | noted _ _ _ _ _ => exact absurd rfl (hne _)
  | unmoved hunmoved =>
    cases hunmoved with
    | unconnected hnot _ =>
      rw [hconnected] at hnot
      cases hnot
    | early hread' hnot =>
      rw [hread, Option.some.injEq] at hread'
      exact absurd hop (hread' ▸ hnot)
    | garbled _ => exact absurd rfl (hne _)

/-- After the `greeting?` only heartbeats are sent, with the last running number there was
(`sequence?`). -/
theorem Tracks.sent_after_greeting {hello : Entry} (h : Tracks log entry.phase)
    (hgreeting : log.greeting? = some hello) :
    entry.sent = [] ∨
      entry.sent = [.heartbeat (Log.sequence? (log.afterGreeting ++ [entry]))] := by
  obtain ⟨signal, hwhat⟩ | ⟨hsilent, -⟩ := entry.signal_or_silent
  swap
  · exact .inl hsilent
  obtain ⟨reaction, hturn, -, hsent, -⟩ := entry.exists_turn hwhat
  rw [Log.sequence?_append]
  generalize hphase : entry.phase = phase at hturn h
  cases hturn with
  | ended _ => exact .inl (hsent.trans (Moment.sent_conclude _ _ _ _))
  | greeted _ =>
    -- A second greeting is none.
    have hnone : log.greeting? = none := h
    rw [hgreeting] at hnone
    cases hnone
  | @requested session content frame hread _ =>
    rw [h.sequence, Entry.frame?_of_connected hwhat (hphase ▸ rfl), hread, Option.bind_some]
    exact .inr hsent
  | struck _ _ =>
    rw [h.sequence, Entry.frame?_of_text? (Entry.text?_of_signal hwhat nofun), Option.bind_none,
      Option.none_or]
    exact .inr hsent
  | _ => exact .inl hsent

/-! ## What is sent on a connection -/

/-- The frame in which the bot says who it is. -/
def introduction (account : Account) : Json :=
  .object
    [("op", .ofNat 2),
      ("d", .object
        [("token", .string account.token), ("intents", .ofNat account.intents),
          ("properties", .object
            [("os", .string "linux"), ("browser", .string "snoid"), ("device", .string "snoid")])])]

/-- A heartbeat with a running number, or with none. -/
def signOfLife (sequence : Option Nat) : Json :=
  .object [("op", .ofNat 1), ("d", (sequence.map Json.ofNat).getD .null)]

/-- The texts that were sent on a connection, as they should be: none before a greeting that asks
for heartbeats, then an introduction, and then heartbeats, each with the last running number that
came after the greeting. -/
structure Log.Introduced (account : Account) (log : Log) : Prop where
  silent : log.greeting? = none → log.sent = []
  introduced : ∀ hello, log.greeting? = some hello →
    ∃ before : Log, log = before ++ hello :: log.afterGreeting ∧ before.sent = [] ∧
      hello.sent.map Outgoing.toJson = [introduction account] ∧
      ∃ frame interval, hello.frame? = some frame ∧ frame.op = 10 ∧
        (frame.data.member "heartbeat_interval").natural? (2 ^ 64) = some interval ∧ 0 < interval
  beats : ∀ past entry, past ++ [entry] <+: log.afterGreeting →
    entry.sent = [] ∨
      entry.sent.map Outgoing.toJson = [signOfLife (Log.sequence? (past ++ [entry]))]

theorem heartbeatInterval?_eq_some {frame : Frame} {interval : Nat}
    (h : heartbeatInterval? frame = some interval) :
    (frame.data.member "heartbeat_interval").natural? (2 ^ 64) = some interval ∧ 0 < interval := by
  rw [heartbeatInterval?] at h
  split at h
  · rename_i ms hms
    split at h
    · rename_i hpos
      obtain rfl := Option.some.inj h
      exact ⟨hms, hpos⟩
    · cases h
  · cases h

theorem Entry.exists_frame_of_interval? {interval : Nat} (h : entry.interval? = some interval) :
    ∃ frame interval, entry.frame? = some frame ∧ frame.op = 10 ∧
      (frame.data.member "heartbeat_interval").natural? (2 ^ 64) = some interval ∧
      0 < interval := by
  obtain ⟨content, htext, hcontent⟩ := Option.bind_eq_some_iff.1 h
  obtain ⟨frame, hread, hop, hframe⟩ := exists_frame_of_greeting? hcontent
  refine ⟨frame, interval, ?_, hop, heartbeatInterval?_eq_some hframe⟩
  rw [Entry.frame?, htext, Option.bind_some, hread]

namespace Log

theorem introduced_nil (account : Account) : Introduced account [] where
  silent _ := rfl
  introduced := nofun
  beats past entry h := by
    have hnil := List.prefix_nil.1 h
    exact absurd hnil (List.append_ne_nil_of_right_ne_nil _ (List.cons_ne_nil _ _))

/-- Whatever happens on a connection, what is sent on it is as it should be. -/
theorem Introduced.append (h : Introduced account log) (haccount : entry.before.account = account)
    (htracks : Tracks log entry.phase) : Introduced account (log ++ [entry]) := by
  -- The entry comes before the greeting, is the greeting, or comes after it.
  rcases hgreeting : log.greeting? with _ | hello
  · have hafter := afterGreeting_append_of_none hgreeting entry
    have hbeats : ∀ past (e : Entry), past ++ [e] <+: Log.afterGreeting (log ++ [entry]) →
        e.sent = [] ∨ e.sent.map Outgoing.toJson = [signOfLife (Log.sequence? (past ++ [e]))] := by
      rw [hafter]
      exact (introduced_nil account).beats
    have hsilent := h.silent hgreeting
    rcases hinterval : entry.interval? with _ | interval
    · have hstill := greeting?_append_of_quiet hgreeting hinterval
      refine ⟨fun _ => ?_, fun hello hhello => ?_, hbeats⟩
      · rw [sent_append, sent_singleton, hsilent, htracks.sent_before_greeting hgreeting hinterval]
        rfl
      · rw [hstill] at hhello
        cases hhello
    · have hnow : Log.greeting? (log ++ [entry]) = some entry := by
        rw [greeting?_append_of_none hgreeting, hinterval]
        rfl
      refine ⟨fun hnone => ?_, fun hello hhello => ?_, hbeats⟩
      · rw [hnow] at hnone
        cases hnone
      · rw [hnow, Option.some.injEq] at hhello
        subst hhello
        refine ⟨log, by rw [hafter], hsilent, ?_, Entry.exists_frame_of_interval? hinterval⟩
        rw [htracks.sent_upon_greeting hgreeting hinterval, haccount]
        rfl
  · have hstill := greeting?_append_of_some hgreeting entry
    have hafter := afterGreeting_append_of_some hgreeting entry
    refine ⟨fun hnone => ?_, fun hello' hhello => ?_, fun past e hstart => ?_⟩
    · rw [hstill] at hnone
      cases hnone
    · rw [hstill, Option.some.injEq] at hhello
      subst hhello
      obtain ⟨before, hlog, hrest⟩ := h.introduced hello hgreeting
      refine ⟨before, ?_, hrest⟩
      rw [hafter, ← List.cons_append, ← List.append_assoc, ← hlog]
    · rw [hafter] at hstart
      obtain hlast | hearlier := List.prefix_concat_iff.1 hstart
      · -- The new entry is the one in question.
        obtain ⟨rfl, he⟩ := List.append_inj' hlast rfl
        obtain rfl : e = entry := (List.cons.inj he).1
        obtain hnothing | hbeat := htracks.sent_after_greeting hgreeting
        · exact .inl hnothing
        · rw [hbeat]
          exact .inr rfl
      · exact h.beats past e hearlier

end Log

/-- What a listener sends on each of its connections (`Log.Introduced`): nothing before the
greeting, then who it is, once, and then heartbeats with the last running number since the greeting.
All that it sends, it sends on one of them. -/
theorem outbound_of_sessions (account : Account) (happenings : List Happening) :
    ((Encounter.start account).go happenings).2.1 =
        (Chronicle.of account happenings).sessions.flatMap Log.sent ∧
      ∀ log ∈ (Chronicle.of account happenings).sessions, Log.Introduced account log := by
  refine ⟨?_, ?_⟩
  · rw [Chronicle.go_eq]
    exact Log.sent_flatten _
  · exact Chronicle.forall_sessions (Log.introduced_nil account)
      (fun _ _ haccount htracks h => h.append haccount htracks) happenings

end Gadfly.Discord
