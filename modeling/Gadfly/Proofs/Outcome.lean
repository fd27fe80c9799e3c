/-
  Gadfly.Proofs.Outcome

  The outcome tells what was delivered.

  The answers sent before the commands see a message are the pipeline's own (`Exchange.pipeline`).
  At most two of them are attempted, the second only when the first did not arrive, so that at
  most one arrives; its text is the one in the `Outcome`, and without one the outcome is `silent`
  (`Router.Told`). What the commands say, and whether that arrives, has no part in it.

  Main definitions: `Reply`, `Exchange.replies`, `Exchange.pipeline`, `Router.Faithful`,
  `Router.Told`.
  Main statements: `exists_faithful`, `outcome_of_replies`.
-/

import Gadfly.Proofs.Course

namespace Gadfly

/-- The mode in which a message was handled, if it was. -/
def Outcome.mode? : Outcome → Option Mode
  | .ignored => none
  | .replied mode _ => some mode
  | .silent mode => some mode

/-- An answer that was sent, and how that went. -/
structure Reply where
  /-- The message that was answered. -/
  message : Message
  text : String
  result : Except TransportFault Unit

/-- Whether an answer arrived. -/
def Reply.arrived (reply : Reply) : Bool :=
  match reply.result with
  | .ok _ => true
  | .error _ => false

namespace Exchange

/-- The answer that was sent in an exchange. -/
def reply? : Exchange → Option Reply
  | ⟨.send message text, some result⟩ => some ⟨message, text, result⟩
  | _ => none

/-- The answers among exchanges, each as a `Reply`. -/
def replies (trace : List Exchange) : List Reply :=
  trace.filterMap reply?

/-- The exchanges before the commands see a message. -/
def pipeline (trace : List Exchange) : List Exchange :=
  trace.takeWhile fun e => !e.call.isDispatch

@[simp] theorem replies_append (first second : List Exchange) :
    replies (first ++ second) = replies first ++ replies second := by
  simp only [replies, List.filterMap_append]

/-- The pipeline ends where the commands first see a message. -/
theorem pipeline_append {before after : List Exchange} {e : Exchange}
    (hbefore : ∀ e ∈ before, e.call.isDispatch = false) (he : e.call.isDispatch = true) :
    pipeline (before ++ e :: after) = before := by
  rw [pipeline, List.takeWhile_append_of_pos (by simpa using hbefore), List.takeWhile_cons,
    if_neg (by simp [he]), List.append_nil]

end Exchange

namespace Router

open Exchange

variable {router : Router} {message : Message} {transcript : String}

/-! ## Answers in the parts of the handling -/

@[simp] theorem replies_asking (purpose : Price.Purpose) (model prompt messageId : String)
    (answer : Except ServiceFault Response) :
    replies (router.asking purpose model prompt messageId answer) = [] := by
  cases answer <;> rfl

/-- The answers sent while one is written, given what becomes of it: exactly the one delivered,
or none, or one that did not arrive. -/
def Accounted (message : Message) : Except Fault (Option String) → List Reply → Prop
  | .ok (some text), sent => sent = [⟨message, text, .ok ()⟩]
  | .ok none, sent => sent = []
  | .error _, sent => sent = [] ∨ ∃ text fault, sent = [⟨message, text, .error fault⟩]

theorem Written.accounted {manner : Manner} {trace : List Exchange}
    {result : Except Fault (Option String)} (h : router.Written message manner trace result) :
    Accounted message result (replies trace) := by
  cases h with
  | failed typed fault => exact .inl rfl
  | withheld typed response hedit =>
    cases hnotice : manner.onNothing <;> rfl
  | sent typed response text hedit sent =>
    cases sent with
    | ok _ => rfl
    | error fault => exact .inr ⟨text, fault, rfl⟩

theorem Commented.accounted {trace : List Exchange} {result : Except Fault (Option String)}
    (h : router.Commented message transcript trace result) :
    Accounted message result (replies trace) := by
  cases h with
  | undecided fault => exact .inl rfl
  | declined response hverdict => rfl
  | affirmed response hverdict hwritten =>
    rw [replies_append, replies_asking, List.nil_append]
    exact hwritten.accounted

theorem Accounted.length_le {result : Except Fault (Option String)} {sent : List Reply}
    (h : Accounted message result sent) : sent.length ≤ 1 := by
  rcases result with fault | _ | text
  · rcases h with rfl | ⟨text, fault, rfl⟩ <;> simp
  · obtain rfl := h
    simp
  · obtain rfl := h
    simp

/-- The answers that arrived are just the one that is reported as delivered. -/
theorem Accounted.filter_arrived {result : Except Fault (Option String)} {sent : List Reply}
    (h : Accounted message result sent) :
    sent.filter Reply.arrived =
      (result.toOption.join.toList.map fun text => ⟨message, text, .ok ()⟩) := by
  rcases result with fault | _ | text
  · rcases h with rfl | ⟨text, fault, rfl⟩ <;> rfl
  · obtain rfl := h
    rfl
  · obtain rfl := h
    rfl

theorem Passed.accounted {trace : List Exchange} {reply : Option String}
    (h : router.Passed message transcript trace reply) :
    ∃ result, Accounted message result (replies trace) ∧ reply = result.toOption.join := by
  cases h with
  | settled hcomment => exact ⟨_, hcomment.accounted, rfl⟩
  | @failed trace fault hcomment =>
    refine ⟨.error fault, ?_, rfl⟩
    have hreport : replies [⟨.report (.passiveFailed message fault), some ()⟩] = [] := rfl
    rw [replies_append, hreport, List.append_nil]
    exact hcomment.accounted

/-- What is reported as delivered is what arrived of at most two answers, the second of which was
sent because the first did not arrive. -/
structure Faithful (message : Message) (reply : Option String) (sent : List Reply) : Prop where
  delivered : sent.filter Reply.arrived = reply.toList.map fun text => ⟨message, text, .ok ()⟩
  atMostTwo : sent.length ≤ 2
  retried : ∀ first second rest, sent = first :: second :: rest → first.arrived = false

theorem Accounted.faithful {result : Except Fault (Option String)} {sent : List Reply}
    (h : Accounted message result sent) : Faithful message result.toOption.join sent := by
  refine ⟨h.filter_arrived, Nat.le_succ_of_le h.length_le, ?_⟩
  -- There is no second answer in a single attempt.
  intro first second rest hsent
  have hlength := h.length_le
  rw [hsent, List.length_cons, List.length_cons] at hlength
  omega

/-- After an answer that failed, a second attempt can still deliver one. -/
theorem Accounted.faithful_append {fault : Fault} {result : Except Fault (Option String)}
    {first second : List Reply} (hfirst : Accounted message (.error fault) first)
    (hsecond : Accounted message result second) :
    Faithful message result.toOption.join (first ++ second) := by
  rcases hfirst with rfl | ⟨text, fault, rfl⟩
  · exact hsecond.faithful
  · -- The lost answer comes before whatever the second attempt sends.
    refine ⟨?_, ?_, ?_⟩
    · rw [List.filter_append, hsecond.filter_arrived]
      rfl
    · rw [List.length_append, List.length_singleton, Nat.add_comm]
      exact Nat.succ_le_succ hsecond.length_le
    · intro first second rest hsent
      obtain ⟨rfl, -⟩ := List.cons.inj hsent
      rfl

theorem Answered.faithful {mode : Mode} {trace : List Exchange} {reply : Option String}
    (h : router.Answered message transcript mode trace reply) :
    Faithful message reply (replies trace) := by
  cases h with
  | passed hpassed =>
    obtain ⟨result, hresult, rfl⟩ := hpassed.accounted
    exact hresult.faithful
  | atOnce hmode hwritten => exact hwritten.accounted.faithful
  | fellBack hmode hwritten hpassed =>
    obtain ⟨result, hresult, rfl⟩ := hpassed.accounted
    rw [replies_append]
    exact hwritten.accounted.faithful_append hresult

/-! ## The outcome -/

theorem Gathered.replies_eq {opening : List Exchange} {transcript : Transcript}
    (h : router.Gathered message opening transcript) : replies opening = [] := by
  cases h <;> rfl

/-- The commands come in where the pipeline ends. -/
theorem Commanded.pipeline_eq {closing before : List Exchange} (h : Commanded message closing)
    (hbefore : ∀ e ∈ before, e.call.isDispatch = false) :
    pipeline (before ++ closing) = before := by
  cases h with
  | unanswered => exact pipeline_append hbefore rfl
  | delivered reply => exact pipeline_append hbefore rfl
  | refused reply fault => exact pipeline_append hbefore rfl

/-- The outcome of a message by a person goes by what its `pipeline` delivered (`Faithful`). -/
theorem exists_faithful {trace : List Exchange} {result : Outcome}
    (hbot : message.fromBot = false)
    (h : Dialogue.Course (router.handle message) trace (some result)) :
    ∃ reply, result = outcome (router.classify message) reply ∧
      Faithful message reply (replies (pipeline trace)) := by
  obtain ⟨opening, transcript, answering, reply, closing, rfl, hopening, hanswering, hunseen,
    hinner, hclosing, rfl⟩ := router.course_handle hbot h
  refine ⟨reply, rfl, ?_⟩
  -- The commands come in after the opening and the answering, and not before.
  have hbefore : ∀ e ∈ ⟨.report (.routing message (router.classify message)), some ()⟩ ::
      (opening ++ answering), e.call.isDispatch = false := by
    intro e he
    rcases List.mem_cons.1 he with rfl | he
    · rfl
    · rcases List.mem_append.1 he with he | he
      · exact hunseen e he
      · exact Call.isDispatch_of_isInner (hinner e he)
  have hpipeline := hclosing.pipeline_eq hbefore
  rw [List.cons_append] at hpipeline
  rw [hpipeline, ← List.singleton_append, replies_append, replies_append, hopening.replies_eq]
  exact hanswering.faithful

theorem outcome_mode? (mode : Mode) (reply : Option String) :
    (outcome mode reply).mode? = some mode := by
  cases reply <;> rfl

theorem outcome_eq_replied_iff {mode mode' : Mode} {reply : Option String} {text : String} :
    outcome mode reply = .replied mode' text ↔ mode' = mode ∧ reply = some text := by
  cases reply <;> simp [outcome, eq_comm]

theorem outcome_eq_silent_iff {mode mode' : Mode} {reply : Option String} :
    outcome mode reply = .silent mode' ↔ mode' = mode ∧ reply = none := by
  cases reply <;> simp [outcome, eq_comm]

/-- The answers that arrived determine what is reported as delivered. -/
theorem Faithful.reply_eq_iff {reply reply' : Option String} {sent : List Reply}
    (h : Faithful message reply sent) :
    reply = reply' ↔
      sent.filter Reply.arrived = reply'.toList.map fun text => ⟨message, text, .ok ()⟩ := by
  rw [h.delivered]
  cases reply <;> cases reply' <;> simp

/-- What an outcome says about the exchanges that led to it. -/
structure Told (router : Router) (message : Message) (trace : List Exchange) (result : Outcome) :
    Prop where
  mode : result.mode? = some (router.classify message)
  /-- A text is told exactly when one answer of the pipeline arrived, and that text. -/
  replied_iff : ∀ mode text, result = .replied mode text ↔
    mode = router.classify message ∧
      (replies (pipeline trace)).filter Reply.arrived = [⟨message, text, .ok ()⟩]
  /-- Silence is told exactly when no answer of the pipeline arrived. -/
  silent_iff : ∀ mode, result = .silent mode ↔
    mode = router.classify message ∧ (replies (pipeline trace)).filter Reply.arrived = []
  /-- At most two answers are attempted. -/
  atMostTwo : (replies (pipeline trace)).length ≤ 2
  /-- The second is attempted only after the first failed. -/
  retried : ∀ first second rest,
    replies (pipeline trace) = first :: second :: rest → first.arrived = false

theorem Faithful.told {reply : Option String} {trace : List Exchange}
    (h : Faithful message reply (replies (pipeline trace))) :
    Told router message trace (outcome (router.classify message) reply) := by
  refine ⟨outcome_mode? _ _, ?_, ?_, h.atMostTwo, h.retried⟩
  · intro mode text
    rw [outcome_eq_replied_iff, h.reply_eq_iff]
    rfl
  · intro mode
    rw [outcome_eq_silent_iff, h.reply_eq_iff]
    rfl

/-- A message by a person comes to an `Outcome` in its own mode, which tells what its `pipeline`
delivered (`Told`). Any other partner with the same exchanges up to the commands leads to the same
outcome, whatever the commands say and whether or not that arrives. -/
theorem outcome_of_replies {σ : Type} (router : Router) {message : Message}
    (hbot : message.fromBot = false) (partner : Partner σ) (s : σ)
    (hanswered : ∀ e ∈ (router.handle message).exchanges partner s, e.answer.isSome) :
    ∃ result, ((router.handle message).run partner s).1 = some result ∧
      Told router message ((router.handle message).exchanges partner s) result ∧
      ∀ (τ : Type) (other : Partner τ) (t : τ),
        (∀ e ∈ (router.handle message).exchanges other t, e.answer.isSome) →
        pipeline ((router.handle message).exchanges other t) =
          pipeline ((router.handle message).exchanges partner s) →
        ((router.handle message).run other t).1 = some result := by
  obtain ⟨result, hresult, hcourse⟩ := Dialogue.exists_course_of_answered hanswered
  obtain ⟨reply, rfl, hfaithful⟩ := exists_faithful hbot hcourse
  refine ⟨_, hresult, hfaithful.told, ?_⟩
  -- The other outcome goes by the same pipeline, hence by the same answers.
  intro τ other t hother hsame
  obtain ⟨result', hresult', hcourse'⟩ := Dialogue.exists_course_of_answered hother
  obtain ⟨reply', rfl, hfaithful'⟩ := exists_faithful hbot hcourse'
  rw [hsame] at hfaithful'
  rw [hresult', hfaithful'.reply_eq_iff.2 hfaithful.delivered]

section Scene

open Rehearsal

theorem outcome_of_second_reply :
    claim.fromBot = false ∧
    (∀ e ∈ (bot.handle claim).exchanges partner scene, e.answer.isSome) ∧
    Told bot claim ((bot.handle claim).exchanges partner scene)
      (.replied .direct "It still does not.") := by
  have hbot : claim.fromBot = false := rfl
  have hanswered : ∀ e ∈ (bot.handle claim).exchanges partner scene, e.answer.isSome := by
    decide +kernel
  have hrun : ((bot.handle claim).run partner scene).1 =
      some (.replied .direct "It still does not.") := by
    decide +kernel
  obtain ⟨result, hresult, htold, -⟩ := outcome_of_replies bot hbot partner scene hanswered
  obtain rfl := Option.some.inj (hrun.symm.trans hresult)
  exact ⟨hbot, hanswered, htold⟩

end Scene

end Router

end Gadfly
