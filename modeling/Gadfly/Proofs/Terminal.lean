/-
  Gadfly.Proofs.Terminal

  What a terminal remembers.

  Lines of the person (`Terminal.ingest`), answers of the pipeline and answers of the commands
  (`Terminal.reply`) go into one log, and each takes the next number for its id. The history of a
  message is found by its id and not by its place (`Terminal.before`). As long as the ids are the
  numbers in order (`InOrder`) the two are the same, since no two numbers are written alike, and
  what is said later comes after all that was found. So the transcript of a message does not
  depend on when it is made, nor on how often.

  A `Step` of a session is a line of the person, an answer, or a message handled. It is told by
  what is said in it (`said`), and so is a row of steps (`Spoken`); all else follows from that.

  Main definitions: `Terminal.Utterance`, `Terminal.Spoken`, `Terminal.InOrder`, `Terminal.Step`,
  `Terminal.act`, `Terminal.said`, `Terminal.perform`, `Transcript.following`, `Terminal.Recalls`,
  `Terminal.Remembers`.
  Main statements: `Terminal.spoken_act`, `Terminal.InOrder.takeWhile_eq`,
  `Terminal.recalls_of_inOrder`, `Terminal.remembers_session`.
-/

import Mathlib.Data.List.DropRight
import Mathlib.Data.List.Nodup
import Gadfly.Terminal
import Gadfly.Proofs.Outcome
import Gadfly.Proofs.Question

namespace Gadfly

open Dialogue

/-! ## Transcripts of what came before -/

/-- The transcript of a message that follows upon others: the last `count` of them, oldest
first, and then its own line. -/
def Transcript.following (most count : Nat) (earlier : List Message) (message : Message) :
    Transcript where
  lines := (earlier.rtake count ++ [message]).map (Line.ofMessage most)

/-- When the history is the end of what came before, no message of it is passed over. -/
theorem Transcript.build_rtake {most count : Nat} {earlier : List Message} {message : Message}
    (h : ∀ other ∈ earlier, other.id ≠ message.id) :
    build most count message (earlier.rtake count).reverse =
      following most count earlier message := by
  have hothers : (earlier.rtake count).reverse.filter (·.id != message.id) =
      (earlier.rtake count).reverse := by
    rw [List.filter_eq_self]
    intro other hother
    rw [bne_iff_ne]
    exact h other (List.mem_of_mem_drop (List.mem_reverse.1 hother))
  have hlength : (earlier.rtake count).reverse.length ≤ count := by
    rw [List.length_reverse, List.rtake, List.length_drop]
    omega
  rw [build, hothers, List.take_of_length_le hlength, List.map_reverse, List.reverse_reverse,
    following, List.map_append, List.map_singleton]

namespace Terminal

/-! ## What is said -/

/-- Something said on a terminal. -/
structure Utterance where
  fromBot : Bool
  content : String
  deriving Repr, DecidableEq

/-- What an entry of the log says. -/
def Utterance.ofMessage (entry : Message) : Utterance :=
  ⟨entry.fromBot, entry.content⟩

/-- The ids of the entries that come next in a log. -/
def nextIds (log : List Message) (count : Nat) : List String :=
  (List.range' (log.length + 1) count).map toString

/-- Between two moments just this was said: it was added to the log, in this order, under the
next ids. -/
def Spoken (earlier : Terminal) (said : List Utterance) (later : Terminal) : Prop :=
  ∃ added, later.log = earlier.log ++ added ∧ added.map Utterance.ofMessage = said ∧
    added.map Message.id = nextIds earlier.log said.length

variable {earlier middle later : Terminal} {first second : List Utterance}

theorem Spoken.of_log_eq (h : later.log = earlier.log) : Spoken earlier [] later :=
  ⟨[], by rw [h, List.append_nil], rfl, rfl⟩

/-- A new entry has the next id. -/
theorem Spoken.of_entry {fromBot : Bool} {content : String}
    (h : later.log = earlier.log ++ [earlier.entry fromBot content]) :
    Spoken earlier [⟨fromBot, content⟩] later :=
  ⟨[earlier.entry fromBot content], h, rfl, rfl⟩

theorem Spoken.trans (hfirst : Spoken earlier first middle) (hsecond : Spoken middle second later) :
    Spoken earlier (first ++ second) later := by
  obtain ⟨added, hlog, hsaid, hids⟩ := hfirst
  obtain ⟨added', hlog', hsaid', hids'⟩ := hsecond
  have hlength : added.length = first.length := by rw [← hsaid, List.length_map]
  refine ⟨added ++ added', ?_, ?_, ?_⟩
  · rw [hlog', hlog, List.append_assoc]
  · rw [List.map_append, hsaid, hsaid']
  · -- The second numbers go on where the first end.
    have hstart : middle.log.length + 1 = earlier.log.length + 1 + first.length := by
      rw [hlog, List.length_append, hlength]
      omega
    rw [List.map_append, hids, hids', nextIds, nextIds, nextIds, hstart, ← List.map_append,
      List.range'_append_1, List.length_append]

theorem Spoken.grows (h : Spoken earlier first later) : earlier.log <+: later.log := by
  obtain ⟨added, hlog, -⟩ := h
  exact ⟨added, hlog.symm⟩

/-! ## What is said in a session -/

/-- A step of a session. -/
inductive Step where
  /-- The person says a line. -/
  | ingest (line : String)
  /-- A message is answered. -/
  | send (message : Message) (text : String)
  /-- A message is handled. -/
  | handle (router : Router) (message : Message)

variable {σ : Type} (service : Service σ) (stage : Stage Terminal σ)

/-- The stage after a `Step`. -/
def act : Step → Stage Terminal σ
  | .ingest line => { stage with transport := (stage.transport.ingest line).2 }
  | .send message text =>
    { stage with transport := (transport.send stage.transport message text).2 }
  | .handle router message =>
    ((router.handle message).run (Stage.partner transport service) stage).2

/-- What is said in a step: the line or the answer, or the answers that are delivered while a
message is handled, be they of the pipeline or of the commands. -/
def said : Step → List Utterance
  | .ingest line => [⟨false, line⟩]
  | .send _ text => [⟨true, text⟩]
  | .handle router message =>
    ((Exchange.replies
      ((router.handle message).exchanges (Stage.partner transport service) stage)).filter
        Reply.arrived).map fun reply => ⟨true, reply.text⟩

/-- The stage after a row of steps (`act`). -/
def perform (steps : List Step) : Stage Terminal σ :=
  steps.foldl (act service) stage

/-- What a call says. -/
def spoken? (call : Call) : Option Utterance :=
  call.sent?.map fun text => ⟨true, text⟩

/-- Nothing but an answer is said by a call. -/
theorem spoken_partner (call : Call) :
    Spoken stage.transport (spoken? call).toList
      (Stage.partner transport service stage call).2.transport := by
  cases call with
  | send message text => exact .of_entry rfl
  | _ => exact .of_log_eq rfl

/-- All answers are delivered. -/
theorem delivered_eq {α : Type} (d : Dialogue α) :
    ((Exchange.replies (d.exchanges (Stage.partner transport service) stage)).filter
        Reply.arrived).map (fun reply => (⟨true, reply.text⟩ : Utterance)) =
      (d.exchanges (Stage.partner transport service) stage).filterMap fun e => spoken? e.call := by
  let Q : Exchange → Prop := fun e =>
    (e.reply?.filter Reply.arrived).map (fun reply => ⟨true, reply.text⟩) = spoken? e.call
  have hall : ∀ e ∈ d.exchanges (Stage.partner transport service) stage, Q e := by
    refine forall_exchanges_of_invariant (I := fun _ => True) ?_ d trivial
    intro stage call _
    refine ⟨trivial, ?_⟩
    cases call <;> rfl
  rw [Exchange.replies, List.filter_filterMap, List.map_filterMap]
  exact List.filterMap_congr hall

/-- A `Step` adds to the log just what is `said` in it. -/
theorem spoken_act (step : Step) :
    Spoken stage.transport (said service stage step) (act service stage step).transport := by
  cases step with
  | ingest line => exact .of_entry rfl
  | send message text => exact .of_entry rfl
  | handle router message =>
    rw [said, delivered_eq]
    apply run_steps (R := fun (s : Stage Terminal σ) said t => Spoken s.transport said t.transport)
    · exact fun s => .of_log_eq rfl
    · exact Spoken.trans
    · exact spoken_partner service

/-- A row of steps adds to the log as well. -/
theorem exists_spoken_perform (steps : List Step) :
    ∃ said, Spoken stage.transport said (perform service stage steps).transport := by
  induction steps generalizing stage with
  | nil => exact ⟨[], .of_log_eq rfl⟩
  | cons step steps ih =>
    obtain ⟨rest, hrest⟩ := ih (act service stage step)
    exact ⟨said service stage step ++ rest, (spoken_act service stage step).trans hrest⟩

/-! ## Ids in order -/

/-- No two numbers are written alike: the digits can be read again. -/
theorem toString_injective : Function.Injective (toString : Nat → String) := by
  intro m n h
  have hdigits : Nat.toDigits 10 m = Nat.toDigits 10 n := String.ofList_injective h
  rw [← Nat.ofDigitChars_ten_toDigits (n := m), hdigits, Nat.ofDigitChars_ten_toDigits]

/-- Whether or not a line mentions the bot, it has the next id. -/
theorem id_ingest (terminal : Terminal) (line : String) :
    (terminal.ingest line).1.id = toString (terminal.log.length + 1) := by
  rw [ingest]
  dsimp only
  split <;> rfl

/-- The ids in a log are the numbers from one on. -/
def InOrder (log : List Message) : Prop :=
  log.map Message.id = (List.range' 1 log.length).map toString

theorem Spoken.inOrder (h : Spoken earlier first later) (horder : InOrder earlier.log) :
    InOrder later.log := by
  obtain ⟨added, hlog, hsaid, hids⟩ := h
  have hlength : added.length = first.length := by rw [← hsaid, List.length_map]
  have hstart : earlier.log.length + 1 = 1 + earlier.log.length := Nat.add_comm _ _
  rw [InOrder, hlog, List.map_append, hids, horder, nextIds, hstart, ← List.map_append,
    List.range'_append_1, List.length_append, hlength]

namespace InOrder

variable {log : List Message} {k : Nat}

theorem id_eq (h : InOrder log) (i : Nat) (hi : i < log.length) : log[i].id = toString (i + 1) := by
  have hids : (log.map Message.id)[i]? = ((List.range' 1 log.length).map toString)[i]? := by
    rw [h]
  rw [List.getElem?_map, List.getElem?_map, List.getElem?_eq_getElem hi,
    List.getElem?_range' hi] at hids
  have hid : log[i].id = toString (1 + 1 * i) := Option.some.inj hids
  rw [hid, Nat.one_mul, Nat.add_comm]

/-- No id is given twice. -/
theorem nodup (h : InOrder log) : (log.map Message.id).Nodup := by
  rw [h]
  exact List.Nodup.map toString_injective List.nodup_range'

/-- The search for an id ends at the entry that has it as its number. -/
theorem takeWhile_eq (h : InOrder log) (hpos : 0 < k) (hk : k ≤ log.length) :
    log.takeWhile (·.id ≠ toString k) = log.take (k - 1) := by
  have hlt : k - 1 < log.length := by omega
  -- The entry with the number is the first that has it as its id.
  rw [List.takeWhile_eq_take_findIdx_not]
  congr 1
  rw [List.findIdx_eq hlt]
  constructor
  · have hid := h.id_eq (k - 1) hlt
    rw [Nat.sub_add_cancel hpos] at hid
    rw [hid]
    simp
  · intro j hj
    have hne : toString (j + 1) ≠ toString k := by
      intro hsame
      have hnumber : j + 1 = k := toString_injective hsame
      omega
    rw [h.id_eq j (Nat.lt_trans hj hlt), Bool.not_eq_false', decide_eq_true_eq]
    exact hne

theorem ne_of_mem_take (h : InOrder log) (hpos : 0 < k) (hk : k ≤ log.length) {entry : Message}
    (hentry : entry ∈ log.take (k - 1)) : entry.id ≠ toString k := by
  rw [← h.takeWhile_eq hpos hk] at hentry
  simpa using List.mem_takeWhile_imp hentry

end InOrder

/-! ## What is found -/

theorem before_of_takeWhile {terminal : Terminal} {id : String} {found : List Message}
    (h : terminal.log.takeWhile (·.id ≠ id) = found) (limit : Nat) :
    terminal.before id limit = (found.rtake limit).reverse := by
  rw [before, h, List.rtake_eq_reverse_take_reverse, List.reverse_reverse]

/-- The search for an id that was not given goes through the whole log. -/
theorem takeWhile_of_not_mem {log : List Message} {id : String} (h : id ∉ log.map Message.id) :
    log.takeWhile (·.id ≠ id) = log := by
  rw [List.takeWhile_eq_self_iff]
  intro entry hentry
  rw [decide_eq_true_eq]
  rintro rfl
  exact h (List.mem_map_of_mem hentry)

theorem history_of_takeWhile {terminal : Terminal} {id : String} {found : List Message}
    (h : terminal.log.takeWhile (·.id ≠ id) = found) (channel : String) (limit : Nat) :
    transport.history terminal channel id limit = (.ok (found.rtake limit).reverse, terminal) := by
  rw [← before_of_takeWhile h limit]
  rfl

/-- The transcript of a message with a number follows upon the entries before that number. -/
theorem transcript_of_inOrder (horder : InOrder stage.transport.log) {k : Nat} (hpos : 0 < k)
    (hk : k ≤ stage.transport.log.length) (router : Router) {message : Message}
    (hid : message.id = toString k) :
    ((router.transcript message).run (Stage.partner transport service) stage).1 =
      some (.following router.settings.truncateLength router.settings.historyCount
        (stage.transport.log.take (k - 1)) message) := by
  have hothers : ∀ other ∈ stage.transport.log.take (k - 1), other.id ≠ message.id := by
    intro other hother
    rw [hid]
    exact horder.ne_of_mem_take hpos hk hother
  have hbefore : stage.transport.before message.id router.settings.historyCount =
      ((stage.transport.log.take (k - 1)).rtake router.settings.historyCount).reverse := by
    rw [hid]
    exact before_of_takeWhile (horder.takeWhile_eq hpos hk) _
  rw [← Transcript.build_rtake hothers, ← hbefore, Router.transcript, Transcript.gather]
  split
  · -- No history is asked for, and none would be used.
    rename_i hcount
    rw [hbefore, hcount, List.rtake_zero]
    rfl
  · rfl

/-- All that the models are asked about such a message is about that transcript. -/
theorem grounded_of_inOrder (horder : InOrder stage.transport.log) {k : Nat} (hpos : 0 < k)
    (hk : k ≤ stage.transport.log.length) (router : Router) {message : Message}
    (hid : message.id = toString k) :
    router.Grounded message
      ((router.handle message).exchanges (Stage.partner transport service) stage)
      (Transcript.following router.settings.truncateLength router.settings.historyCount
        (stage.transport.log.take (k - 1)) message).render := by
  cases hbot : message.fromBot with
  | true =>
    rw [router.handle_of_fromBot hbot]
    exact Router.grounded_of_unasked fun e he => absurd he List.not_mem_nil
  | false =>
    -- The report of the mode comes first, and leaves the terminal as it is.
    let notice : Notice := .routing message (router.classify message)
    let reported : Stage Terminal σ := { stage with journal := stage.journal ++ [.report notice] }
    have hreport : Held (Stage.partner transport service) (report notice) stage
        [⟨.report notice, some ()⟩] (some ()) reported := held_call rfl
    have hmade : ((router.transcript message).run (Stage.partner transport service) reported).1 =
        some (.following router.settings.truncateLength router.settings.historyCount
          (stage.transport.log.take (k - 1)) message) :=
      transcript_of_inOrder service reported horder hpos hk router hid
    have htranscript := held_run (Stage.partner transport service) (router.transcript message)
      reported
    rw [hmade] at htranscript
    have hopening : Held _ (router.opening message) stage _ _ _ :=
      hreport.bind (htranscript.map Transcript.render)
    exact Router.grounded_of_opening hbot (congrArg Prod.fst hopening.run_eq)

/-! ## Sessions -/

/-- What can be found at a stage about the entry with a number: the entries that came before it,
as they were when it was made. -/
structure Recalls (stage : Stage Terminal σ) (k : Nat) (earlier : List Message) : Prop where
  /-- There are as many as were asked for, if there were as many. -/
  length_eq : ∀ limit, (earlier.rtake limit).length = min limit (k - 1)
  history : ∀ channel limit, transport.history stage.transport channel (toString k) limit =
    (.ok (earlier.rtake limit).reverse, stage.transport)
  transcript : ∀ (router : Router) (message : Message), message.id = toString k →
    ((router.transcript message).run (Stage.partner transport service) stage).1 =
      some (.following router.settings.truncateLength router.settings.historyCount earlier message)
  /-- A message that is handled is judged by that transcript. -/
  grounded : ∀ (router : Router) (message : Message), message.id = toString k →
    router.Grounded message
      ((router.handle message).exchanges (Stage.partner transport service) stage)
      (Transcript.following router.settings.truncateLength router.settings.historyCount earlier
        message).render

theorem recalls_of_inOrder (horder : InOrder stage.transport.log) {k : Nat} (hpos : 0 < k)
    (hk : k ≤ stage.transport.log.length) :
    Recalls service stage k (stage.transport.log.take (k - 1)) := by
  refine ⟨fun limit => ?_, fun channel limit => ?_, fun router message hid => ?_,
    fun router message hid => ?_⟩
  · rw [List.rtake, List.length_drop, List.length_take]
    omega
  · exact history_of_takeWhile (horder.takeWhile_eq hpos hk) channel limit
  · exact transcript_of_inOrder service stage horder hpos hk router hid
  · exact grounded_of_inOrder service stage horder hpos hk router hid

/-- What a session keeps to at one stage, `now`, and at another that it comes to from there,
`later`. -/
structure Remembers (now later : Stage Terminal σ) : Prop where
  /-- The log only grows. -/
  grows : now.transport.log <+: later.transport.log
  /-- The ids are the numbers from one on. -/
  inOrder : InOrder now.transport.log
  unique : (now.transport.log.map Message.id).Nodup
  /-- What a person says is handed out under the id of its entry. -/
  ingested : ∀ line,
    (now.transport.ingest line).1.id = toString (now.transport.log.length + 1)
  /-- Each step adds to the log just what is said in it. -/
  spoken : ∀ step,
    Spoken now.transport (said service now step) (act service now step).transport
  /-- An id that was not given finds the newest entries of all. -/
  unknown : ∀ id, id ∉ now.transport.log.map Message.id → ∀ channel limit,
    transport.history now.transport channel id limit =
      (.ok (now.transport.log.rtake limit).reverse, now.transport)
  /-- What was found before an entry is found at any later time. -/
  recalls : ∀ k, 0 < k → k ≤ now.transport.log.length →
    Recalls service later k (now.transport.log.take (k - 1))

/-- Whatever is said on a terminal and in whatever order, the log only grows by what is said, the
entries are numbered, and what comes `before` an entry is found in the same way at any later time
(`Remembers`). -/
theorem remembers_session (botName userName : String) (clock : Nat → Time.Timestamp) (s : σ)
    (commands : Commands) (first rest : List Step) :
    let now := perform service (.fresh (blank botName userName clock) s commands) first
    Remembers service now (perform service now rest) := by
  intro now
  obtain ⟨_, hnow⟩ :=
    exists_spoken_perform service (.fresh (blank botName userName clock) s commands) first
  obtain ⟨_, hlater⟩ := exists_spoken_perform service now rest
  have horder : InOrder now.transport.log := hnow.inOrder rfl
  refine ⟨hlater.grows, horder, horder.nodup, fun line => ?_, spoken_act service now, ?_, ?_⟩
  · exact id_ingest now.transport line
  · intro id hid channel limit
    exact history_of_takeWhile (takeWhile_of_not_mem hid) channel limit
  · intro k hpos hk
    -- What was said later stands behind the entry.
    have hlength : k ≤ (perform service now rest).transport.log.length :=
      hk.trans hlater.grows.length_le
    have hsame : (perform service now rest).transport.log.take (k - 1) =
        now.transport.log.take (k - 1) := by
      obtain ⟨added, hadded⟩ := hlater.grows
      rw [← hadded, List.take_append_of_le_length (by omega)]
    rw [← hsame]
    exact recalls_of_inOrder service _ (hlater.inOrder horder) hpos hlength

example :
    let terminal := blank "gadfly" "you" fun _ => Rehearsal.claim.timestamp
    let message := (terminal.ingest "the moon landing was in 1972").1
    let script : List Rehearsal.Turn :=
      [.answer (.ok (.ofText "yes")), .answer (.ok (.ofText "Wrong. It was 1969."))]
    let stage := perform Rehearsal.service (.fresh terminal script none)
      [.ingest "the moon landing was in 1972", .handle Rehearsal.bot message,
        .ingest "fine, whatever"]
    stage.transport.log.map (fun entry => (entry.id, entry.authorName, entry.content)) =
        [("1", "you", "the moon landing was in 1972"), ("2", "gadfly", "Wrong. It was 1969."),
          ("3", "you", "fine, whatever")] ∧
      (stage.transport.before "3" 1).map Message.id = ["2"] := by
  decide +kernel

end Terminal

end Gadfly
