/-
  Gadfly.Proofs.Course

  The courses that the handling of a message can take.

  The three kinds of answers, `Router.direct`, `Router.greet` and the second half of
  `Router.comment`, are written in one `Manner`: it is shown that an answer is being written, the
  expensive model is asked, and what it wrote is edited and sent, unless nothing is left of it
  (`Router.write`). They differ in the question (`Manner.prompt`) and in the editing
  (`Manner.edit`). Each part of the handling has a relation that lists its courses, one
  constructor for each way it can go (`Router.Written`, `Router.Commented`, `Router.Passed`,
  `Router.Answered`, `Router.Commanded`, `Router.Gathered`), and a theorem that there are no
  others; what is said about all runs of `Router.handle` is said by cases on these relations.

  Main definitions: `Manner`, `Router.write`, `Router.settle`, `Router.opening`, `Router.finish`,
  `Router.Written`, `Router.Commented`, `Router.Passed`, `Router.Answered`, `Router.Commanded`,
  `Router.Gathered`.
  Main statements: `course_handle`, `exchanges_handle_cases`, `not_dispatched_of_broken`.
-/

import Gadfly.Rehearsal
import Gadfly.Proofs.Exchange

namespace Gadfly

open Dialogue

/-- A manner of answering: why and what the expensive model is asked, what is sent of what it
writes, and what is reported when that is nothing. The answers of `Router.direct`, `Router.greet`
and `Router.comment` differ in it only. -/
structure Manner where
  purpose : Price.Purpose
  prompt : String
  edit : String → Option String
  onNothing : Option Notice

namespace Router

variable (router : Router)

/-! ## One manner of writing for all answers -/

/-- The manner of `direct`: an answer has to be given, and without the sentinel. -/
def forced (message : Message) (transcript : String) : Manner where
  purpose := .critique
  prompt := Prompt.critique router.persona transcript true
  edit raw := if stripSentinel raw = "" then none else some (stripSentinel raw)
  onNothing := some (.emptyCritique message.id)

/-- The manner of `greet`: a greeting is always answered. -/
def welcoming (transcript : String) : Manner where
  purpose := .presence
  prompt := Prompt.presence router.persona transcript
  edit text := some (if text = "" then Prompt.presenceFallback else text)
  onNothing := none

/-- The manner of `comment`: the answer to a message that goes by may be withheld. -/
def unforced (transcript : String) : Manner where
  purpose := .critique
  prompt := Prompt.critique router.persona transcript false
  edit text := if isSuppressed text then none else some text.trimmed
  onNothing := none

/-- Writes an answer in a `Manner`: shows that it is being written, asks the expensive model, and
delivers what `edit` leaves. -/
def write (message : Message) (manner : Manner) : Dialogue (Except Fault (Option String)) := do
  typing message.channel
  match ← router.ask manner.purpose router.settings.expensiveModel manner.prompt message.id with
  | .error fault => return .error (.service fault)
  | .ok completion =>
    match manner.edit completion.text with
    | some text => deliver message text
    | none =>
      match manner.onNothing with
      | none => return .ok none
      | some notice =>
        report notice
        return .ok none

/-- What becomes of what the model says when an answer is written in a `Manner`. -/
def settle (message : Message) (manner : Manner) :
    Except ServiceFault Completion → Dialogue (Except Fault (Option String))
  | .error fault => return .error (.service fault)
  | .ok completion =>
    match manner.edit completion.text with
    | some text => deliver message text
    | none =>
      match manner.onNothing with
      | none => return .ok none
      | some notice => do
        report notice
        return .ok none

/-- An answer is written in three steps: it is announced, the model is asked, and what the model
says is settled. -/
theorem write_eq (message : Message) (manner : Manner) :
    router.write message manner =
      (call (.typing message.channel)).bind fun _ =>
        (router.ask manner.purpose router.settings.expensiveModel manner.prompt message.id).bind
          (settle message manner) := by
  simp only [write, typing, bind_eq, pure_eq, bind_assoc, done_bind]
  rfl

theorem direct_eq_write (message : Message) (transcript : String) :
    router.direct message transcript = router.write message (router.forced message transcript) := by
  simp only [direct, write, critique, forced, bind_eq, pure_eq, bind_assoc]
  congr 1
  funext _
  congr 1
  funext answer
  cases answer with
  | error fault => rfl
  | ok completion =>
    simp only [done_bind]
    split <;> rfl

theorem greet_eq_write (message : Message) (transcript : String) :
    router.greet message transcript = router.write message (router.welcoming transcript) := by
  simp only [greet, write, presence, welcoming, bind_eq, pure_eq, bind_assoc]
  congr 1
  funext _
  congr 1
  funext answer
  cases answer with
  | error fault => rfl
  | ok completion => rfl

/-- A message that goes by is answered in the third manner once the gate is passed. -/
theorem comment_eq (message : Message) (transcript : String) :
    router.comment message transcript =
      (router.gate message transcript).bind fun
        | .error fault => .done (.error (.service fault))
        | .ok false => .done (.ok none)
        | .ok true => router.write message (router.unforced transcript) := by
  simp only [comment, write, critique, unforced, bind_eq, pure_eq, bind_assoc]
  congr 1
  funext verdict
  rcases verdict with fault | _ | _
  · rfl
  · rfl
  · -- From here on both write in the third manner.
    simp only
    congr 1
    funext _
    congr 1
    funext answer
    cases answer with
    | error fault => rfl
    | ok completion =>
      simp only [done_bind]
      split <;> rfl

/-- The manner in which a message of a mode is answered at first. -/
def manner (mode : Mode) (message : Message) (transcript : String) : Manner :=
  match mode with
  | .direct => router.forced message transcript
  | .greeting => router.welcoming transcript
  | .passive => router.unforced transcript

/-- What is reported when the first answer to a message fails. -/
def failure (mode : Mode) (messageId : String) (fault : Fault) : Notice :=
  match mode with
  | .greeting => .greetingFailed messageId fault
  | _ => .directFailed messageId fault

/-- A message that concerns the bot is answered in its manner, or else as if it went by. -/
theorem answer_eq {mode : Mode} (hmode : mode ≠ .passive) (message : Message)
    (transcript : String) :
    router.answer mode message transcript =
      (router.write message (router.manner mode message transcript)).bind fun
        | .ok reply => .done reply
        | .error fault =>
          (report (failure mode message.id fault)).bind fun _ =>
            router.passive message transcript := by
  cases mode with
  | direct =>
    simp only [answer, manner, direct_eq_write, bind_eq, pure_eq]
    congr 1
  | greeting =>
    simp only [answer, manner, greet_eq_write, bind_eq, pure_eq]
    congr 1
  | passive => exact absurd rfl hmode

/-! ## Before and after the transcript -/

/-- What comes before any answer: the message is routed, and a transcript is made of it
(`Router.transcript`). -/
def opening (message : Message) : Dialogue String := do
  report (.routing message (router.classify message))
  let transcript ← router.transcript message
  return transcript.render

/-- All that follows upon the transcript of a message that is handled in a mode: `answer`, and then
`command`. -/
def finish (mode : Mode) (message : Message) (transcript : String) : Dialogue Outcome := do
  let reply ← router.answer mode message transcript
  command message
  return outcome mode reply

theorem handle_eq {message : Message} (hbot : message.fromBot = false) :
    router.handle message =
      (router.opening message).bind (router.finish (router.classify message) message) := by
  simp only [handle, opening, finish, hbot, Bool.false_eq_true, if_false, bind_eq, pure_eq,
    bind_assoc, done_bind]

/-! ## Courses of the parts -/

/-- The exchanges of a question with a given answer: an answer is followed by what it cost. -/
def asking (purpose : Price.Purpose) (model prompt messageId : String) :
    Except ServiceFault Response → List Exchange
  | .error fault => [⟨.complete ⟨model, prompt⟩, some (.error fault)⟩]
  | .ok response =>
    [⟨.complete ⟨model, prompt⟩, some (.ok response)⟩,
      ⟨.report (.cost messageId (Price.record router.prices purpose model
        response.normal.inputTokens response.normal.outputTokens)), some ()⟩]

/-- The courses of writing an answer (`write`), each with what becomes of it. -/
inductive Written (message : Message) (manner : Manner) :
    List Exchange → Except Fault (Option String) → Prop
  /-- The model did not answer. -/
  | failed (typed : Except TransportFault Unit) (fault : ServiceFault) :
      Written message manner
        (⟨.typing message.channel, some typed⟩ ::
          router.asking manner.purpose router.settings.expensiveModel manner.prompt message.id
            (.error fault))
        (.error (.service fault))
  /-- Nothing was left to be sent. -/
  | withheld (typed : Except TransportFault Unit) (response : Response)
      (hedit : manner.edit response.normal.text = none) :
      Written message manner
        (⟨.typing message.channel, some typed⟩ ::
          router.asking manner.purpose router.settings.expensiveModel manner.prompt message.id
            (.ok response) ++
          manner.onNothing.toList.map fun notice => ⟨.report notice, some ()⟩)
        (.ok none)
  /-- The answer was sent, whether or not it arrived. -/
  | sent (typed : Except TransportFault Unit) (response : Response) (text : String)
      (hedit : manner.edit response.normal.text = some text)
      (result : Except TransportFault Unit) :
      Written message manner
        (⟨.typing message.channel, some typed⟩ ::
          router.asking manner.purpose router.settings.expensiveModel manner.prompt message.id
            (.ok response) ++
          [⟨.send message text, some result⟩])
        (match result with
          | .ok () => .ok (some text)
          | .error fault => .error (.transport fault))

/-- The courses of judging a message that goes by, and of answering it (`comment`). -/
inductive Commented (message : Message) (transcript : String) :
    List Exchange → Except Fault (Option String) → Prop
  | undecided (fault : ServiceFault) :
      Commented message transcript
        (router.asking .gate router.settings.cheapModel (Prompt.gate transcript) message.id
          (.error fault))
        (.error (.service fault))
  | declined (response : Response) (hverdict : isAffirmative response.normal.text = false) :
      Commented message transcript
        (router.asking .gate router.settings.cheapModel (Prompt.gate transcript) message.id
          (.ok response))
        (.ok none)
  | affirmed (response : Response) (hverdict : isAffirmative response.normal.text = true)
      {trace : List Exchange} {result : Except Fault (Option String)}
      (hwritten : router.Written message (router.unforced transcript) trace result) :
      Commented message transcript
        (router.asking .gate router.settings.cheapModel (Prompt.gate transcript) message.id
          (.ok response) ++ trace)
        result

/-- The courses of the `passive` answer, with the text delivered. -/
inductive Passed (message : Message) (transcript : String) :
    List Exchange → Option String → Prop
  | settled {trace : List Exchange} {reply : Option String}
      (hcomment : router.Commented message transcript trace (.ok reply)) :
      Passed message transcript trace reply
  | failed {trace : List Exchange} {fault : Fault}
      (hcomment : router.Commented message transcript trace (.error fault)) :
      Passed message transcript
        (trace ++ [⟨.report (.passiveFailed message fault), some ()⟩]) none

/-- The courses of the `answer` to a message in a mode, with the text delivered. -/
inductive Answered (message : Message) (transcript : String) :
    Mode → List Exchange → Option String → Prop
  | passed {trace : List Exchange} {reply : Option String}
      (hpassed : router.Passed message transcript trace reply) :
      Answered message transcript .passive trace reply
  | atOnce {mode : Mode} (hmode : mode ≠ .passive) {trace : List Exchange}
      {reply : Option String}
      (hwritten : router.Written message (router.manner mode message transcript) trace
        (.ok reply)) :
      Answered message transcript mode trace reply
  | fellBack {mode : Mode} (hmode : mode ≠ .passive) {first second : List Exchange}
      {fault : Fault} {reply : Option String}
      (hwritten : router.Written message (router.manner mode message transcript) first
        (.error fault))
      (hpassed : router.Passed message transcript second reply) :
      Answered message transcript mode
        (first ++ ⟨.report (failure mode message.id fault), some ()⟩ :: second) reply

/-- The courses of letting the commands see a message (`command`). -/
inductive Commanded (message : Message) : List Exchange → Prop
  | unanswered : Commanded message [⟨.dispatch message, some none⟩]
  | delivered (reply : String) :
      Commanded message
        [⟨.dispatch message, some (some reply)⟩, ⟨.send message reply, some (.ok ())⟩]
  | refused (reply : String) (fault : TransportFault) :
      Commanded message
        [⟨.dispatch message, some (some reply)⟩, ⟨.send message reply, some (.error fault)⟩,
          ⟨.report (.commandFailed message.id fault), some ()⟩]

/-- The courses of making a transcript of a message (`Transcript.gather`), with the transcript. -/
inductive Gathered (message : Message) : List Exchange → Transcript → Prop
  | alone (hcount : router.settings.historyCount = 0) :
      Gathered message [] (.build router.settings.truncateLength 0 message [])
  | heard (hcount : router.settings.historyCount ≠ 0) (messages : List Message) :
      Gathered message
        [⟨.history message.channel message.id router.settings.historyCount, some (.ok messages)⟩]
        (.build router.settings.truncateLength router.settings.historyCount message messages)
  | unheard (hcount : router.settings.historyCount ≠ 0) (fault : TransportFault) :
      Gathered message
        [⟨.history message.channel message.id router.settings.historyCount, some (.error fault)⟩,
          ⟨.report (.noHistory message fault), some ()⟩]
        (.build router.settings.truncateLength router.settings.historyCount message [])

/-! ## What the parts can call at all -/

section Only

variable {P : Call → Prop}

theorem only_ask {purpose : Price.Purpose} {model prompt messageId : String}
    (hcomplete : P (.complete ⟨model, prompt⟩)) (hreport : ∀ notice, P (.report notice)) :
    (router.ask purpose model prompt messageId).Only P := by
  refine only_bind (only_call hcomplete) fun answer => ?_
  cases answer with
  | error fault => trivial
  | ok response => exact only_bind (only_call (hreport _)) fun _ => trivial

theorem only_deliver {message : Message} {text : String} (hsend : P (.send message text)) :
    (deliver message text).Only P := by
  refine only_bind (only_call hsend) fun sent => ?_
  cases sent <;> trivial

theorem only_settle {message : Message} {manner : Manner}
    (hsend : ∀ text, P (.send message text)) (hreport : ∀ notice, P (.report notice))
    (answer : Except ServiceFault Completion) : (settle message manner answer).Only P := by
  cases answer with
  | error fault => trivial
  | ok completion =>
    rw [settle]
    split
    · exact only_deliver (hsend _)
    · split
      · trivial
      · exact only_bind (only_call (hreport _)) fun _ => trivial

theorem only_write {message : Message} {manner : Manner}
    (htyping : P (.typing message.channel))
    (hcomplete : P (.complete ⟨router.settings.expensiveModel, manner.prompt⟩))
    (hsend : ∀ text, P (.send message text)) (hreport : ∀ notice, P (.report notice)) :
    (router.write message manner).Only P := by
  rw [write_eq]
  refine only_bind (only_call htyping) fun _ => ?_
  exact only_bind (router.only_ask hcomplete hreport) (only_settle hsend hreport)

theorem only_gate {message : Message} {transcript : String}
    (hcomplete : P (.complete ⟨router.settings.cheapModel, Prompt.gate transcript⟩))
    (hreport : ∀ notice, P (.report notice)) : (router.gate message transcript).Only P := by
  refine only_bind (router.only_ask hcomplete hreport) fun answer => ?_
  cases answer <;> trivial

theorem only_passive_of_write {message : Message} {transcript : String}
    (hgate : (router.gate message transcript).Only P)
    (hwrite : (router.write message (router.unforced transcript)).Only P)
    (hreport : ∀ notice, P (.report notice)) : (router.passive message transcript).Only P := by
  have hcomment : (router.comment message transcript).Only P := by
    rw [comment_eq]
    refine only_bind hgate fun verdict => ?_
    rcases verdict with fault | _ | _
    · trivial
    · trivial
    · exact hwrite
  refine only_bind hcomment fun commented => ?_
  cases commented with
  | ok reply => trivial
  | error fault => exact only_bind (only_call (hreport _)) fun _ => trivial

/-- The answer to a message calls what the gate and the manners of writing call. -/
theorem only_answer_of_write {mode : Mode} {message : Message} {transcript : String}
    (hgate : (router.gate message transcript).Only P)
    (hwrite : ∀ mode, (router.write message (router.manner mode message transcript)).Only P)
    (hreport : ∀ notice, P (.report notice)) :
    (router.answer mode message transcript).Only P := by
  have hpassive : (router.passive message transcript).Only P :=
    router.only_passive_of_write hgate (hwrite .passive) hreport
  by_cases hmode : mode = .passive
  · subst hmode
    exact hpassive
  · rw [router.answer_eq hmode]
    refine only_bind (hwrite mode) fun written => ?_
    cases written with
    | ok reply => trivial
    | error fault => exact only_bind (only_call (hreport _)) fun _ => hpassive

theorem only_answer {mode : Mode} {message : Message} {transcript : String}
    (htyping : P (.typing message.channel)) (hcomplete : ∀ request, P (.complete request))
    (hsend : ∀ text, P (.send message text)) (hreport : ∀ notice, P (.report notice)) :
    (router.answer mode message transcript).Only P :=
  router.only_answer_of_write (router.only_gate (hcomplete _) hreport)
    (fun _ => router.only_write htyping (hcomplete _) hsend hreport) hreport

theorem only_command {message : Message} (hdispatch : P (.dispatch message))
    (hsend : ∀ text, P (.send message text)) (hreport : ∀ notice, P (.report notice)) :
    (command message).Only P := by
  refine only_bind (only_call hdispatch) fun answer => ?_
  cases answer with
  | none => trivial
  | some reply =>
    refine only_bind (only_call (hsend reply)) fun sent => ?_
    cases sent with
    | ok _ => trivial
    | error fault => exact only_call (hreport _)

theorem only_transcript {message : Message}
    (hhistory : P (.history message.channel message.id router.settings.historyCount))
    (hreport : ∀ notice, P (.report notice)) : (router.transcript message).Only P := by
  rw [Router.transcript, Transcript.gather]
  split
  · trivial
  · refine only_bind (only_call hhistory) fun answer => ?_
    cases answer with
    | ok messages => trivial
    | error fault => exact only_bind (only_call (hreport _)) fun _ => trivial

theorem only_opening {message : Message}
    (hhistory : P (.history message.channel message.id router.settings.historyCount))
    (hreport : ∀ notice, P (.report notice)) : (router.opening message).Only P := by
  refine only_bind (only_call (hreport _)) fun _ => ?_
  exact only_bind (router.only_transcript hhistory hreport) fun _ => trivial

theorem only_handle {message : Message}
    (hhistory : P (.history message.channel message.id router.settings.historyCount))
    (htyping : P (.typing message.channel)) (hcomplete : ∀ request, P (.complete request))
    (hsend : ∀ text, P (.send message text)) (hdispatch : P (.dispatch message))
    (hreport : ∀ notice, P (.report notice)) : (router.handle message).Only P := by
  cases hbot : message.fromBot with
  | true =>
    rw [handle_of_fromBot router hbot]
    trivial
  | false =>
    rw [router.handle_eq hbot]
    refine only_bind (router.only_opening hhistory hreport) fun transcript => ?_
    refine only_bind (router.only_answer htyping hcomplete hsend hreport) fun reply => ?_
    exact only_bind (only_command hdispatch hsend hreport) fun _ => trivial

end Only

/-! ## There are no other courses -/

theorem course_ask {purpose : Price.Purpose} {model prompt messageId : String}
    {trace : List Exchange} {result : Except ServiceFault Completion}
    (h : Course (router.ask purpose model prompt messageId) trace (some result)) :
    ∃ answer, trace = router.asking purpose model prompt messageId answer ∧
      result = answer.map Response.normal := by
  simp only [ask, complete, report, bind_eq, pure_eq] at h
  obtain ⟨answer, rest, rfl, hrest⟩ := course_call_bind_iff.1 h
  refine ⟨answer, ?_⟩
  cases answer with
  | error fault =>
    obtain ⟨rfl, rfl⟩ := course_done_iff.1 hrest
    exact ⟨rfl, rfl⟩
  | ok response =>
    obtain ⟨_, _, rfl, hdone⟩ := course_call_bind_iff.1 hrest
    obtain ⟨rfl, rfl⟩ := course_done_iff.1 hdone
    exact ⟨rfl, rfl⟩

theorem course_deliver {message : Message} {text : String} {trace : List Exchange}
    {result : Except Fault (Option String)}
    (h : Course (deliver message text) trace (some result)) :
    ∃ sent : Except TransportFault Unit, trace = [⟨.send message text, some sent⟩] ∧
      result = match sent with
        | .ok () => .ok (some text)
        | .error fault => .error (.transport fault) := by
  simp only [deliver, send, bind_eq, pure_eq] at h
  obtain ⟨sent, rest, rfl, hrest⟩ := course_call_bind_iff.1 h
  refine ⟨sent, ?_⟩
  cases sent with
  | error fault =>
    obtain ⟨rfl, rfl⟩ := course_done_iff.1 hrest
    exact ⟨rfl, rfl⟩
  | ok _ =>
    obtain ⟨rfl, rfl⟩ := course_done_iff.1 hrest
    exact ⟨rfl, rfl⟩

theorem course_write {message : Message} {manner : Manner} {trace : List Exchange}
    {result : Except Fault (Option String)}
    (h : Course (router.write message manner) trace (some result)) :
    router.Written message manner trace result := by
  -- One call after the other, as in the definition: typing, question, cost, delivery.
  rw [write_eq] at h
  obtain ⟨typed, rest, rfl, hrest⟩ := course_call_bind_iff.1 h
  obtain ⟨_, asked, rest, rfl, hasked, hrest⟩ := course_bind_iff.1 hrest
  obtain ⟨answer, rfl, rfl⟩ := router.course_ask hasked
  cases answer with
  | error fault =>
    obtain ⟨rfl, rfl⟩ := course_done_iff.1 hrest
    exact .failed typed fault
  | ok response =>
    simp only [Except.map, settle] at hrest
    split at hrest
    · rename_i text hedit
      obtain ⟨sent, rfl, rfl⟩ := course_deliver hrest
      exact .sent typed response text hedit sent
    · rename_i hedit
      -- There is a report or none, according to the manner.
      have hwithheld := @Written.withheld router message manner typed response hedit
      cases hnotice : manner.onNothing with
      | none =>
        rw [hnotice] at hrest hwithheld
        obtain ⟨rfl, rfl⟩ := course_done_iff.1 hrest
        exact hwithheld
      | some notice =>
        rw [hnotice] at hrest hwithheld
        obtain ⟨_, _, rfl, hdone⟩ := course_call_bind_iff.1 hrest
        obtain ⟨rfl, rfl⟩ := course_done_iff.1 hdone
        exact hwithheld

/-- The text that a call sends, if it sends one, is what a `Manner` makes of the model's answer to
its question. -/
def IsEdited (manner : Manner) (before : List Exchange) (call : Call) : Prop :=
  ∀ text, call.sent? = some text → ∃ response,
    ⟨.complete ⟨router.settings.expensiveModel, manner.prompt⟩, some (.ok response)⟩ ∈ before ∧
      manner.edit response.normal.text = some text

/-- Nothing is sent in a manner but what it makes of an answer by the model. -/
theorem warranted_write (message : Message) (manner : Manner) (before : List Exchange) :
    (router.write message manner).Warranted (router.IsEdited manner) before := by
  have hunsent : ∀ before call, call.sent? = none → router.IsEdited manner before call := by
    intro before call hcall text htext
    rw [hcall] at htext
    cases htext
  rw [write_eq]
  refine (warranted_call (hunsent _ _ rfl)).bind fun typed _ _ => ?_
  refine (warranted_of_only hunsent (router.only_ask rfl fun _ => rfl)).bind ?_
  intro asked result hasked
  obtain ⟨answer, rfl, rfl⟩ := router.course_ask hasked
  cases answer with
  | error fault => trivial
  | ok response =>
    simp only [Except.map, settle]
    split
    · rename_i text hedit
      -- The answer is among what was exchanged before the delivery.
      refine (warranted_call ?_).bind fun _ sent _ => ?_
      · rintro _ ⟨⟩
        exact ⟨response, List.mem_append_right _ List.mem_cons_self, hedit⟩
      · cases sent <;> trivial
    · split
      · trivial
      · exact warranted_of_only hunsent (only_bind (only_call rfl) fun _ => trivial)

theorem course_gate {message : Message} {transcript : String} {trace : List Exchange}
    {result : Except ServiceFault Bool}
    (h : Course (router.gate message transcript) trace (some result)) :
    ∃ answer, trace = router.asking .gate router.settings.cheapModel (Prompt.gate transcript)
        message.id answer ∧
      result = answer.map fun response => isAffirmative response.normal.text := by
  simp only [gate, bind_eq, pure_eq] at h
  obtain ⟨_, asked, rest, rfl, hasked, hrest⟩ := course_bind_iff.1 h
  obtain ⟨answer, rfl, rfl⟩ := router.course_ask hasked
  refine ⟨answer, ?_⟩
  cases answer with
  | error fault =>
    obtain ⟨rfl, rfl⟩ := course_done_iff.1 hrest
    exact ⟨List.append_nil _, rfl⟩
  | ok response =>
    obtain ⟨rfl, rfl⟩ := course_done_iff.1 hrest
    exact ⟨List.append_nil _, rfl⟩

theorem course_comment {message : Message} {transcript : String} {trace : List Exchange}
    {result : Except Fault (Option String)}
    (h : Course (router.comment message transcript) trace (some result)) :
    router.Commented message transcript trace result := by
  rw [comment_eq] at h
  obtain ⟨_, asked, rest, rfl, hasked, hrest⟩ := course_bind_iff.1 h
  obtain ⟨answer, rfl, rfl⟩ := router.course_gate hasked
  cases answer with
  | error fault =>
    obtain ⟨rfl, rfl⟩ := course_done_iff.1 hrest
    rw [List.append_nil]
    exact .undecided fault
  | ok response =>
    simp only [Except.map] at hrest
    cases hverdict : isAffirmative response.normal.text with
    | false =>
      rw [hverdict] at hrest
      obtain ⟨rfl, rfl⟩ := course_done_iff.1 hrest
      rw [List.append_nil]
      exact .declined response hverdict
    | true =>
      rw [hverdict] at hrest
      exact .affirmed response hverdict (router.course_write hrest)

theorem course_passive {message : Message} {transcript : String} {trace : List Exchange}
    {reply : Option String}
    (h : Course (router.passive message transcript) trace (some reply)) :
    router.Passed message transcript trace reply := by
  simp only [passive, report, bind_eq, pure_eq] at h
  obtain ⟨commented, first, rest, rfl, hfirst, hrest⟩ := course_bind_iff.1 h
  have hcomment := router.course_comment hfirst
  cases commented with
  | ok reply =>
    obtain ⟨rfl, rfl⟩ := course_done_iff.1 hrest
    rw [List.append_nil]
    exact .settled hcomment
  | error fault =>
    obtain ⟨_, _, rfl, hdone⟩ := course_call_bind_iff.1 hrest
    obtain ⟨rfl, rfl⟩ := course_done_iff.1 hdone
    exact .failed hcomment

theorem course_answer {mode : Mode} {message : Message} {transcript : String}
    {trace : List Exchange} {reply : Option String}
    (h : Course (router.answer mode message transcript) trace (some reply)) :
    router.Answered message transcript mode trace reply := by
  by_cases hmode : mode = .passive
  · subst hmode
    exact .passed (router.course_passive h)
  · rw [router.answer_eq hmode] at h
    obtain ⟨written, first, rest, rfl, hfirst, hrest⟩ := course_bind_iff.1 h
    have hwritten := router.course_write hfirst
    cases written with
    | ok reply =>
      obtain ⟨rfl, rfl⟩ := course_done_iff.1 hrest
      rw [List.append_nil]
      exact .atOnce hmode hwritten
    | error fault =>
      obtain ⟨_, second, rfl, hsecond⟩ := course_call_bind_iff.1 hrest
      exact .fellBack hmode hwritten (router.course_passive hsecond)

theorem course_command {message : Message} {trace : List Exchange} {value : Unit}
    (h : Course (command message) trace (some value)) : Commanded message trace := by
  simp only [command, dispatch, send, report, bind_eq, pure_eq] at h
  obtain ⟨answer, rest, rfl, hrest⟩ := course_call_bind_iff.1 h
  cases answer with
  | none =>
    obtain ⟨rfl, -⟩ := course_done_iff.1 hrest
    exact .unanswered
  | some reply =>
    obtain ⟨sent, _, rfl, hsent⟩ := course_call_bind_iff.1 hrest
    cases sent with
    | ok _ =>
      obtain ⟨rfl, -⟩ := course_done_iff.1 hsent
      exact .delivered reply
    | error fault =>
      obtain rfl := course_call_iff.1 hsent
      exact .refused reply fault

theorem course_transcript {message : Message} {trace : List Exchange} {transcript : Transcript}
    (h : Course (router.transcript message) trace (some transcript)) :
    router.Gathered message trace transcript := by
  simp only [Router.transcript, Transcript.gather, history, report, bind_eq, pure_eq] at h
  split at h
  · rename_i hcount
    obtain ⟨rfl, rfl⟩ := course_done_iff.1 h
    exact .alone hcount
  · rename_i hcount
    obtain ⟨answer, rest, rfl, hrest⟩ := course_call_bind_iff.1 h
    cases answer with
    | ok messages =>
      obtain ⟨rfl, rfl⟩ := course_done_iff.1 hrest
      exact .heard hcount messages
    | error fault =>
      obtain ⟨_, _, rfl, hdone⟩ := course_call_bind_iff.1 hrest
      obtain ⟨rfl, rfl⟩ := course_done_iff.1 hdone
      exact .unheard hcount fault

/-- A message by a person is routed, a transcript is made of it (`Gathered`), it is answered in its
mode (`Answered`), and the commands see it last (`Commanded`). -/
theorem course_handle {message : Message} (hbot : message.fromBot = false)
    {trace : List Exchange} {result : Outcome}
    (h : Course (router.handle message) trace (some result)) :
    ∃ opening transcript pipeline reply closing,
      trace = ⟨.report (.routing message (router.classify message)), some ()⟩ ::
        (opening ++ pipeline ++ closing) ∧
      router.Gathered message opening transcript ∧
      router.Answered message transcript.render (router.classify message) pipeline reply ∧
      (∀ e ∈ opening, e.call.isDispatch = false) ∧ (∀ e ∈ pipeline, e.call.isInner = true) ∧
      Commanded message closing ∧
      result = outcome (router.classify message) reply := by
  simp only [handle, hbot, Bool.false_eq_true, if_false, report, bind_eq, pure_eq] at h
  obtain ⟨_, rest, rfl, hrest⟩ := course_call_bind_iff.1 h
  obtain ⟨transcript, opening, rest, rfl, hopening, hrest⟩ := course_bind_iff.1 hrest
  obtain ⟨reply, pipeline, rest, rfl, hpipeline, hrest⟩ := course_bind_iff.1 hrest
  obtain ⟨_, closing, rest, rfl, hclosing, hrest⟩ := course_bind_iff.1 hrest
  obtain ⟨rfl, rfl⟩ := course_done_iff.1 hrest
  -- The commands come in at the end only, and the history at the beginning only.
  have hunseen : (router.transcript message).Only fun call => call.isDispatch = false :=
    router.only_transcript rfl fun _ => rfl
  have hinner : (router.answer (router.classify message) message transcript.render).Only
      fun call => call.isInner = true :=
    router.only_answer rfl (fun _ => rfl) (fun _ => rfl) fun _ => rfl
  refine ⟨opening, transcript, pipeline, reply, closing, ?_, router.course_transcript hopening,
    router.course_answer hpipeline, hopening.forall_of_only hunseen,
    hpipeline.forall_of_only hinner, course_command hclosing, rfl⟩
  rw [List.append_nil, List.append_assoc]

/-- However the partner behaves, nothing happens, or `handle` is broken off before there is a
transcript, or it goes on with one. -/
theorem exchanges_handle_cases (message : Message) {σ : Type} (partner : Partner σ) (s : σ) :
    (router.handle message).exchanges partner s = [] ∨
      Course (router.opening message) ((router.handle message).exchanges partner s) none ∨
      ∃ transcript first second result,
        (router.handle message).exchanges partner s = first ++ second ∧
          Course (router.opening message) first (some transcript) ∧
          Course (router.finish (router.classify message) message transcript) second result := by
  cases hbot : message.fromBot with
  | true =>
    rw [handle_of_fromBot router hbot]
    exact .inl rfl
  | false =>
    have hcourse := course_exchanges partner (router.handle message) s
    rw [router.handle_eq hbot] at hcourse ⊢
    rcases hcourse.bind_cases with
      ⟨hbroken, -⟩ | ⟨transcript, first, second, htrace, hfirst, hsecond⟩
    · exact .inr (.inl hbroken)
    · exact .inr (.inr ⟨transcript, first, second, _, htrace, hfirst, hsecond⟩)

/-- The commands do not see a message after a completion about it broke off: no exchange
`isDispatch`. -/
theorem not_dispatched_of_broken {σ : Type} {message : Message} {partner : Partner σ} {s : σ}
    {request : Request}
    (h : ⟨.complete request, none⟩ ∈ (router.handle message).exchanges partner s) :
    ∀ e ∈ (router.handle message).exchanges partner s, e.call.isDispatch = false := by
  cases hbot : message.fromBot with
  | true =>
    rw [handle_of_fromBot router hbot] at h
    exact absurd h List.not_mem_nil
  | false =>
    -- All completions come before the commands.
    have hparts : router.handle message =
        ((router.opening message).bind (router.answer (router.classify message) message)).bind
          fun reply => (command message).bind fun _ =>
            .done (outcome (router.classify message) reply) := by
      rw [router.handle_eq hbot, bind_assoc]
      rfl
    have hunseen : ((router.opening message).bind
        (router.answer (router.classify message) message)).Only
        fun call => call.isDispatch = false := by
      refine only_bind (router.only_opening rfl fun _ => rfl) fun transcript => ?_
      exact router.only_answer rfl (fun _ => rfl) (fun _ => rfl) fun _ => rfl
    rw [hparts] at h ⊢
    rw [exchanges_bind_of_broken ?_ h]
    · exact forall_exchanges_of_only hunseen partner s
    · intro reply
      exact only_bind (only_command rfl (fun _ => rfl) fun _ => rfl) fun _ => trivial

end Router

/-! ## A scene -/

namespace Rehearsal

/-- The bot, as it comes. -/
def bot : Router :=
  ⟨.standard, "bot-1", .builtIn⟩

/-- Somebody addresses the bot. -/
def claim : Message :=
  { id := "7", authorId := "u1", authorName := "alice", channel := "general",
    content := "pineapple belongs on pizza", fromBot := false, mentions := .ofList ["bot-1"],
    timestamp := ⟨0, 0, 0⟩ }

/-- The first answer is written but not delivered; the gate then says yes, and a second answer
is delivered. -/
def scene : Set :=
  .fresh
    { selfId := "bot-1", history := .ok [], ignoresLimit := false, typing := .ok (),
      sends := [.error (.undelivered "general" "closed"), .ok ()] }
    [.answer (.ok (.ofText "It does not.")), .answer (.ok (.ofText "yes")),
      .answer (.ok (.ofText "It still does not."))]
    none

end Rehearsal

end Gadfly
