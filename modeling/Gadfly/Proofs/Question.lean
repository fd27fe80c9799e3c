/-
  Gadfly.Proofs.Question

  What the models are asked while a message is handled, and when.

  There are four kinds of `Question`: whether the last line is wrong, for a critique that has to
  be given, for one that may be withheld, and for an answer to a greeting. However the partner
  behaves, all that is asked in one handling are such questions about one transcript, which is
  made of one history (`Router.Grounded`). The transcript is text by then, so nothing that happens
  in the channel later on changes it, and a message that falls back is judged by the transcript of
  the first attempt.

  Each question has its time, and the time depends only on the questions that went before
  (`Question.Timely`). Which question a request puts can be told from its prompt, also when both
  tiers use one model (`request_injective`).

  Main definitions: `Question`, `Question.request`, `Question.Timely`, `Router.Fetched`,
  `Router.Grounded`, `Router.Consults`.
  Main statements: `Question.request_injective`, `warranted_finish`, `exists_grounded`,
  `Router.questions_about_one_transcript`.
-/

import Gadfly.Proofs.Order

namespace Gadfly

open Dialogue

namespace Exchange

/-- The exchanges with the completion service. -/
def completions (trace : List Exchange) : List Exchange :=
  trace.filter fun e => e.call.isComplete

@[simp] theorem completions_append (first second : List Exchange) :
    completions (first ++ second) = completions first ++ completions second :=
  List.filter_append first second

theorem completions_of_forall {trace : List Exchange}
    (h : ∀ e ∈ trace, e.call.isComplete = false) : completions trace = [] := by
  rw [completions, List.filter_eq_nil_iff]
  intro e he
  rw [h e he]
  exact Bool.false_ne_true

theorem requests_of_forall {trace : List Exchange}
    (h : ∀ e ∈ trace, e.call.isComplete = false) :
    Call.requests (trace.map Exchange.call) = [] := by
  rw [Call.requests, List.filterMap_eq_nil_iff]
  intro call hcall
  obtain ⟨e, he, rfl⟩ := List.mem_map.1 hcall
  have hother := h e he
  split
  · rename_i request hrequest
    rw [hrequest] at hother
    cases hother
  · rfl

end Exchange

/-! ## Questions -/

/-- What a model can be asked about a transcript. -/
inductive Question where
  | gate
  | critique (forced : Bool)
  | presence
  deriving Repr, DecidableEq

namespace Question

/-- The `Request` by which a question is put. -/
def request (router : Router) (transcript : String) : Question → Request
  | .gate => ⟨router.settings.cheapModel, Prompt.gate transcript⟩
  | .critique forced =>
    ⟨router.settings.expensiveModel, Prompt.critique router.persona transcript forced⟩
  | .presence => ⟨router.settings.expensiveModel, Prompt.presence router.persona transcript⟩

/-- What a question is for. -/
def purpose : Question → Price.Purpose
  | .gate => .gate
  | .critique _ => .critique
  | .presence => .presence

/-- The question by which a message of a mode is answered. -/
def toAnswer : Mode → Question
  | .direct => .critique true
  | .greeting => .presence
  | .passive => .critique false

/-- When a question is put, with the exchanges with the service before it. The first question
about a message is the one that its mode calls for. A critique may be withheld only if the last
question before it was for the gate, and the gate said yes. -/
def Timely (router : Router) (message : Message) (transcript : String)
    (earlier : List Exchange) : Question → Prop
  | .critique true => router.classify message = .direct ∧ earlier = []
  | .presence => router.classify message = .greeting ∧ earlier = []
  | .gate => if router.classify message = .passive then earlier = [] else earlier.length = 1
  | .critique false => ∃ response,
      earlier.getLast? =
        some ⟨.complete (Question.gate.request router transcript), some (.ok response)⟩ ∧
      isAffirmative response.normal.text = true

variable {router : Router} {message : Message} {transcript : String}

theorem request_injective (router : Router) (transcript : String) :
    Function.Injective (request router transcript) := by
  intro first second h
  have hprompt := congrArg Request.prompt h
  -- The words before the transcript differ for any two questions.
  cases first with
  | gate =>
    cases second with
    | gate => rfl
    | critique forced => exact absurd hprompt (Prompt.gate_ne_critique _ _ _)
    | presence => exact absurd hprompt (Prompt.gate_ne_presence _ _)
  | critique forced =>
    cases second with
    | gate => exact absurd hprompt.symm (Prompt.gate_ne_critique _ _ _)
    | critique forced' => rw [Prompt.critique_inj hprompt]
    | presence => exact absurd hprompt (Prompt.critique_ne_presence _ _ _)
  | presence =>
    cases second with
    | gate => exact absurd hprompt.symm (Prompt.gate_ne_presence _ _)
    | critique forced => exact absurd hprompt.symm (Prompt.critique_ne_presence _ _ _)
    | presence => rfl

/-- Every prompt ends with the transcript. -/
theorem exists_prompt_eq (question : Question) :
    ∃ front, (question.request router transcript).prompt =
      front ++ "Transcript:\n" ++ transcript := by
  have hmem : (question.request router transcript).prompt ∈
      Prompt.about router.persona transcript := by
    cases question with
    | gate => simp [request, Prompt.about]
    | critique forced => cases forced <;> simp [request, Prompt.about]
    | presence => simp [request, Prompt.about]
  obtain ⟨front, hfront⟩ := Prompt.exists_eq_append_of_mem_about hmem
  have hsplit : "\n\nTranscript:\n" = "\n\n" ++ "Transcript:\n" := by decide +kernel
  refine ⟨front ++ "\n\n", ?_⟩
  rw [hfront, Prompt.transcriptPart, hsplit, String.append_assoc, String.append_assoc,
    String.append_assoc]

theorem request_toAnswer (mode : Mode) :
    (toAnswer mode).request router transcript =
      ⟨router.settings.expensiveModel, (router.manner mode message transcript).prompt⟩ := by
  cases mode <;> rfl

theorem purpose_toAnswer (mode : Mode) :
    (toAnswer mode).purpose = (router.manner mode message transcript).purpose := by
  cases mode <;> rfl

/-- A message that concerns the bot is first of all answered. -/
theorem timely_toAnswer (hmode : router.classify message ≠ .passive) :
    (toAnswer (router.classify message)).Timely router message transcript [] := by
  cases h : router.classify message with
  | direct => exact ⟨h, rfl⟩
  | greeting => exact ⟨h, rfl⟩
  | passive => exact absurd h hmode

end Question

namespace Router

variable (router : Router) {message : Message} {transcript : String} {before : List Exchange}

/-! ## Ways of putting the questions

They differ in the question and in how the answer is read. -/

theorem gate_eq (message : Message) (transcript : String) :
    router.gate message transcript =
      (router.ask .gate router.settings.cheapModel (Prompt.gate transcript) message.id).bind
        fun answer => .done (answer.map fun completion => isAffirmative completion.text) := by
  rw [gate, bind_eq]
  congr 1
  funext answer
  cases answer <;> rfl

theorem critique_eq (message : Message) (transcript : String) (forced : Bool) :
    router.critique message transcript forced =
      (router.ask .critique router.settings.expensiveModel
        (Prompt.critique router.persona transcript forced) message.id).bind
          fun answer => .done (answer.map Completion.text) := by
  rw [critique, bind_eq]
  congr 1
  funext answer
  cases answer <;> rfl

theorem presence_eq (message : Message) (transcript : String) :
    router.presence message transcript =
      (router.ask .presence router.settings.expensiveModel
        (Prompt.presence router.persona transcript) message.id).bind
          fun answer => .done (answer.map fun completion =>
            if completion.text = "" then Prompt.presenceFallback else completion.text) := by
  rw [presence, bind_eq]
  congr 1
  funext answer
  cases answer <;> rfl

/-! ## Questions come at their time -/

/-- If a call asks the completion service, then it puts a question, at its time. -/
def Asks (message : Message) (transcript : String) (before : List Exchange) (call : Call) : Prop :=
  ∀ request, call = .complete request → ∃ question : Question,
    request = question.request router transcript ∧
      question.Timely router message transcript (Exchange.completions before)

theorem asks_of_not_isComplete (before : List Exchange) (call : Call)
    (h : call.isComplete = false) : router.Asks message transcript before call :=
  fun request hcall => absurd hcall (Call.ne_complete h request)

theorem asks_of_timely {question : Question} {request : Request}
    (hrequest : request = question.request router transcript)
    (h : question.Timely router message transcript (Exchange.completions before)) :
    router.Asks message transcript before (.complete request) := by
  rintro _ ⟨⟩
  exact ⟨question, hrequest, h⟩

theorem completions_asking (purpose : Price.Purpose) (model prompt messageId : String)
    (answer : Except ServiceFault Response) :
    Exchange.completions (router.asking purpose model prompt messageId answer) =
      [⟨.complete ⟨model, prompt⟩, some answer⟩] := by
  cases answer <;> rfl

variable {router}

theorem Written.length_completions {manner : Manner} {trace : List Exchange}
    {result : Except Fault (Option String)} (h : router.Written message manner trace result) :
    (Exchange.completions trace).length = 1 := by
  cases h with
  | failed typed fault => rfl
  | withheld typed response hedit =>
    -- What may be reported at the end is not for the service.
    have hreports : Exchange.completions
        (manner.onNothing.toList.map fun notice => ⟨.report notice, some ()⟩) = [] := by
      apply Exchange.completions_of_forall
      intro e he
      obtain ⟨notice, -, rfl⟩ := List.mem_map.1 he
      rfl
    rw [Exchange.completions_append, hreports]
    rfl
  | sent typed response text hedit sent => rfl

variable (router)

theorem asks_report (before : List Exchange) (notice : Notice) :
    router.Asks message transcript before (.report notice) :=
  router.asks_of_not_isComplete before _ rfl

theorem warranted_asks_ask {question : Question} {purpose : Price.Purpose}
    {model prompt messageId : String}
    (hrequest : ⟨model, prompt⟩ = question.request router transcript)
    (h : question.Timely router message transcript (Exchange.completions before)) :
    (router.ask purpose model prompt messageId).Warranted (router.Asks message transcript)
      before := by
  refine (warranted_call (router.asks_of_timely hrequest h)).bind fun trace answer _ => ?_
  cases answer with
  | error fault => trivial
  | ok response => exact (warranted_call (router.asks_report _ _)).bind fun _ _ _ => trivial

theorem warranted_asks_write {question : Question} {manner : Manner}
    (hrequest : ⟨router.settings.expensiveModel, manner.prompt⟩ =
      question.request router transcript)
    (h : question.Timely router message transcript (Exchange.completions before)) :
    (router.write message manner).Warranted (router.Asks message transcript) before := by
  rw [write_eq]
  refine (warranted_call (router.asks_of_not_isComplete _ _ rfl)).bind fun trace typed htyped => ?_
  obtain rfl := course_call_iff.1 htyped
  have htimely : question.Timely router message transcript
      (Exchange.completions (before ++ [⟨.typing message.channel, some typed⟩])) := by
    -- Showing that an answer is being written is no question.
    rw [Exchange.completions_append]
    exact (List.append_nil (Exchange.completions before)).symm ▸ h
  refine (router.warranted_asks_ask hrequest htimely).bind fun _ answer _ => ?_
  exact warranted_of_only router.asks_of_not_isComplete
    (only_settle (fun _ => rfl) (fun _ => rfl) answer)

theorem warranted_asks_passive
    (h : Question.gate.Timely router message transcript (Exchange.completions before)) :
    (router.passive message transcript).Warranted (router.Asks message transcript) before := by
  have hgate : (router.gate message transcript).Warranted (router.Asks message transcript)
      before := by
    rw [gate_eq]
    exact (router.warranted_asks_ask rfl h).bind fun _ _ _ => trivial
  have hcomment : (router.comment message transcript).Warranted (router.Asks message transcript)
      before := by
    rw [comment_eq]
    refine hgate.bind fun trace verdict hverdict => ?_
    obtain ⟨answer, rfl, rfl⟩ := router.course_gate hverdict
    cases answer with
    | error fault => trivial
    | ok response =>
      simp only [Except.map]
      cases haffirmed : isAffirmative response.normal.text with
      | false => trivial
      | true =>
        -- The gate's answer is the last one that came from the service.
        have htimely : (Question.critique false).Timely router message transcript
            (Exchange.completions (before ++ router.asking .gate router.settings.cheapModel
              (Prompt.gate transcript) message.id (.ok response))) := by
          refine ⟨response, ?_, haffirmed⟩
          rw [Exchange.completions_append, completions_asking, List.getLast?_concat]
          rfl
        exact router.warranted_asks_write rfl htimely
  refine hcomment.bind fun _ commented _ => ?_
  cases commented with
  | ok reply => trivial
  | error fault => exact (warranted_call (router.asks_report _ _)).bind fun _ _ _ => trivial

/-- All that follows upon a transcript (`finish`) asks about it, if nothing was asked before. -/
theorem warranted_finish (message : Message) (transcript : String)
    (hbefore : Exchange.completions before = []) :
    (router.finish (router.classify message) message transcript).Warranted
      (router.Asks message transcript) before := by
  have hanswer : (router.answer (router.classify message) message transcript).Warranted
      (router.Asks message transcript) before := by
    by_cases hmode : router.classify message = .passive
    · rw [hmode]
      apply router.warranted_asks_passive
      rw [Question.Timely, if_pos hmode]
      exact hbefore
    · rw [router.answer_eq hmode]
      have hfirst : (Question.toAnswer (router.classify message)).Timely router message transcript
          (Exchange.completions before) := hbefore.symm ▸ Question.timely_toAnswer hmode
      refine (router.warranted_asks_write (Question.request_toAnswer _).symm hfirst).bind ?_
      intro trace written hwritten
      cases written with
      | ok reply => trivial
      | error fault =>
        -- One question has been put, in vain, and the gate is next.
        have hone := (router.course_write hwritten).length_completions
        refine (warranted_call (router.asks_report _ _)).bind fun _ _ hreport => ?_
        obtain rfl := course_call_iff.1 hreport
        apply router.warranted_asks_passive
        rw [Question.Timely, if_neg hmode, Exchange.completions_append,
          Exchange.completions_append, hbefore, List.nil_append, List.length_append, hone]
        rfl
  refine hanswer.bind fun _ reply _ => ?_
  apply warranted_of_only router.asks_of_not_isComplete
  exact only_bind (only_command rfl (fun _ => rfl) fun _ => rfl) fun _ => trivial

/-! ## One transcript -/

/-- The transcript is made of the one history that is fetched. When that fails, or none is wanted,
it is the message alone. -/
def Fetched (message : Message) (trace : List Exchange) (transcript : String) : Prop :=
  if router.settings.historyCount = 0 then
    trace.filter (fun e => e.call.isHistory) = [] ∧
      transcript = (Transcript.build router.settings.truncateLength 0 message []).render
  else
    ∃ fetched : Except TransportFault (List Message),
      trace.filter (fun e => e.call.isHistory) =
        [⟨.history message.channel message.id router.settings.historyCount, some fetched⟩] ∧
      transcript = (Transcript.build router.settings.truncateLength router.settings.historyCount
        message (fetched.toOption.getD [])).render

/-- All that a handling asks of the models are questions about one transcript, at their time. -/
structure Grounded (message : Message) (trace : List Exchange) (transcript : String) : Prop where
  fetched : (∃ e ∈ trace, e.call.isComplete = true) → router.Fetched message trace transcript
  asked : ∀ request answer, ⟨.complete request, answer⟩ ∈ trace →
    ∃ question : Question, request = question.request router transcript
  timely : ∀ before (question : Question) answer after,
    trace = before ++ ⟨.complete (question.request router transcript), answer⟩ :: after →
      question.Timely router message transcript (Exchange.completions before)
  ending : ∀ request answer, ⟨.complete request, answer⟩ ∈ trace →
    ∃ front, request.prompt = front ++ "Transcript:\n" ++ transcript

variable {router} {trace : List Exchange}

theorem grounded_of_asks
    (hfetched : (∃ e ∈ trace, e.call.isComplete = true) → router.Fetched message trace transcript)
    (hasks : ∀ before e after, trace = before ++ e :: after →
      router.Asks message transcript before e.call) :
    router.Grounded message trace transcript := by
  have hasked : ∀ request answer, ⟨.complete request, answer⟩ ∈ trace →
      ∃ question : Question, request = question.request router transcript := by
    intro request answer hmem
    obtain ⟨before, after, hsplit⟩ := List.append_of_mem hmem
    obtain ⟨question, hrequest, -⟩ := hasks _ _ _ hsplit request rfl
    exact ⟨question, hrequest⟩
  refine ⟨hfetched, hasked, ?_, ?_⟩
  · intro before question answer after hsplit
    obtain ⟨other, hrequest, htimely⟩ := hasks _ _ _ hsplit _ rfl
    exact Question.request_injective router transcript hrequest ▸ htimely
  · intro request answer hmem
    obtain ⟨question, rfl⟩ := hasked request answer hmem
    exact question.exists_prompt_eq

/-- Without questions there is nothing to be shown. -/
theorem grounded_of_unasked (h : ∀ e ∈ trace, e.call.isComplete = false) :
    router.Grounded message trace transcript := by
  apply grounded_of_asks
  · rintro ⟨e, he, hcomplete⟩
    rw [h e he] at hcomplete
    cases hcomplete
  · rintro before e after rfl
    exact router.asks_of_not_isComplete before _
      (h e (List.mem_append_right before List.mem_cons_self))

theorem Gathered.fetched {gathered rest : List Exchange} {text : Transcript}
    (h : router.Gathered message gathered text) (hrest : ∀ e ∈ rest, e.call.isHistory = false) :
    router.Fetched message (gathered ++ rest) text.render := by
  have hnone : rest.filter (fun e => e.call.isHistory) = [] := by
    rw [List.filter_eq_nil_iff]
    intro e he
    rw [hrest e he]
    exact Bool.false_ne_true
  rw [Fetched, List.filter_append, hnone, List.append_nil]
  cases h with
  | alone hcount =>
    rw [if_pos hcount]
    exact ⟨rfl, rfl⟩
  | heard hcount messages =>
    rw [if_neg hcount]
    exact ⟨.ok messages, rfl, rfl⟩
  | unheard hcount fault =>
    rw [if_neg hcount]
    exact ⟨.error fault, rfl, rfl⟩

theorem only_opening_unasked (router : Router) (message : Message) :
    (router.opening message).Only fun call => call.isComplete = false :=
  router.only_opening rfl fun _ => rfl

theorem course_opening
    (h : Course (router.opening message) trace (some transcript)) :
    ∃ gathered text, trace =
        ⟨.report (.routing message (router.classify message)), some ()⟩ :: gathered ∧
      router.Gathered message gathered text ∧ transcript = text.render := by
  simp only [opening, report, bind_eq, pure_eq] at h
  obtain ⟨_, rest, rfl, hrest⟩ := course_call_bind_iff.1 h
  obtain ⟨text, gathered, rest, rfl, hgathered, hdone⟩ := course_bind_iff.1 hrest
  obtain ⟨rfl, rfl⟩ := course_done_iff.1 hdone
  exact ⟨gathered, text, by rw [List.append_nil], router.course_transcript hgathered, rfl⟩

theorem grounded_of_courses {first second : List Exchange} {result : Option Outcome}
    (hfirst : Course (router.opening message) first (some transcript))
    (hsecond : Course (router.finish (router.classify message) message transcript) second result) :
    router.Grounded message (first ++ second) transcript := by
  have hunasked := hfirst.forall_of_only (router.only_opening_unasked message)
  refine grounded_of_asks (fun _ => ?_) ?_
  · -- The history comes before the transcript, and none after it.
    obtain ⟨gathered, text, rfl, hgathered, rfl⟩ := course_opening hfirst
    have hfinish : (router.finish (router.classify message) message text.render).Only
        fun call => call.isHistory = false := by
      refine only_bind (router.only_answer rfl (fun _ => rfl) (fun _ => rfl) fun _ => rfl) ?_
      intro reply
      exact only_bind (only_command rfl (fun _ => rfl) fun _ => rfl) fun _ => trivial
    exact hgathered.fetched (hsecond.forall_of_only hfinish)
  · intro before e after hsplit
    -- No question is asked before there is a transcript.
    rcases split_append hsplit with ⟨rest, hbefore, -⟩ | ⟨rest, rfl, hafter⟩
    · apply router.asks_of_not_isComplete
      exact hunasked e (hbefore ▸ List.mem_append_right before List.mem_cons_self)
    · have hfinish := router.warranted_finish message transcript
        (Exchange.completions_of_forall hunasked)
      exact hsecond.warrant_of_eq hfinish hafter

/-- What is asked while a message is handled is about the transcript that is made at first. -/
theorem grounded_of_opening {σ : Type} {partner : Partner σ} {s : σ}
    (hbot : message.fromBot = false)
    (h : ((router.opening message).run partner s).1 = some transcript) :
    router.Grounded message ((router.handle message).exchanges partner s) transcript := by
  have hopening := held_run partner (router.opening message) s
  have hfirst := course_exchanges partner (router.opening message) s
  rw [h] at hopening hfirst
  rw [router.handle_eq hbot, (hopening.bind (held_run partner _ _)).exchanges_eq]
  exact grounded_of_courses hfirst (course_exchanges partner _ _)

variable (router)

theorem exists_grounded (message : Message) {σ : Type} (partner : Partner σ) (s : σ) :
    ∃ transcript,
      router.Grounded message ((router.handle message).exchanges partner s) transcript := by
  rcases router.exchanges_handle_cases message partner s with
    hnothing | hbroken | ⟨transcript, first, second, result, htrace, hfirst, hsecond⟩
  · rw [hnothing]
    exact ⟨"", grounded_of_unasked fun e he => absurd he List.not_mem_nil⟩
  · -- Without a transcript nothing is asked.
    exact ⟨"", grounded_of_unasked (hbroken.forall_of_only (router.only_opening_unasked message))⟩
  · rw [htrace]
    exact ⟨transcript, grounded_of_courses hfirst hsecond⟩

/-! ## Questions put on their own -/

/-- A way of putting a question makes one request, by which the question is put. Without a given
transcript, one is made for it, and the request is the one about that. -/
def Consults {α : Type} (question : Question) (put : Message → String → Dialogue α) : Prop :=
  ∀ (message : Message) {σ : Type} (partner : Partner σ) (s : σ),
    (∀ transcript,
      Call.requests (((put message transcript).exchanges partner s).map Exchange.call) =
        [question.request router transcript]) ∧
    Call.requests (((router.consult put message).exchanges partner s).map Exchange.call) =
      ((router.transcript message).run partner s).1.toList.map fun transcript =>
        question.request router transcript.render

variable {α σ : Type} {purpose : Price.Purpose} {model prompt messageId : String}

theorem requests_ask (partner : Partner σ) (s : σ) :
    Call.requests
        (((router.ask purpose model prompt messageId).exchanges partner s).map Exchange.call) =
      [⟨model, prompt⟩] := by
  simp only [ask, complete, report, call, bind_eq, ask_bind, done_bind, pure_eq]
  rw [exchanges_ask]
  rcases partner s (.complete ⟨model, prompt⟩) with ⟨_ | fault | response, t⟩
  · rfl
  · rfl
  · -- The answer is followed by a report of what it cost, which may break off.
    simp only [exchanges_ask]
    split <;> rfl

theorem consults_of_eq {question : Question} {put : Message → String → Dialogue α}
    (read : Except ServiceFault Completion → α)
    (h : ∀ message transcript, put message transcript =
      (router.ask question.purpose (question.request router transcript).model
        (question.request router transcript).prompt message.id).bind fun answer =>
          .done (read answer)) : router.Consults question put := by
  intro message σ partner s
  have hput : ∀ transcript (t : σ),
      Call.requests (((put message transcript).exchanges partner t).map Exchange.call) =
        [question.request router transcript] := by
    intro transcript t
    -- Reading the answer takes no call.
    have hread := (held_run partner (router.ask question.purpose
      (question.request router transcript).model (question.request router transcript).prompt
        message.id) t).map read
    rw [h, hread.exchanges_eq, requests_ask]
  refine ⟨fun transcript => hput transcript s, ?_⟩
  have hunasked : (router.transcript message).Only fun call => call.isComplete = false :=
    router.only_transcript rfl fun _ => rfl
  have hopening : Call.requests
      (((router.transcript message).exchanges partner s).map Exchange.call) = [] :=
    Exchange.requests_of_forall (forall_exchanges_of_only hunasked partner s)
  rw [consult, bind_eq, exchanges_bind, List.map_append, Call.requests_append, hopening,
    List.nil_append]
  rcases (router.transcript message).run partner s with ⟨_ | transcript, t⟩
  · rfl
  · exact hput transcript.render t

/-- However the partner behaves, the models are asked about one transcript while a message is
handled, each question at its time (`Grounded`); and a question put on its own makes the same
request (`Consults`). -/
theorem questions_about_one_transcript :
    (∀ (message : Message) {σ : Type} (partner : Partner σ) (s : σ), ∃ transcript,
      router.Grounded message ((router.handle message).exchanges partner s) transcript) ∧
    router.Consults .gate router.gate ∧
    (∀ forced, router.Consults (.critique forced) fun message transcript =>
      router.critique message transcript forced) ∧
    router.Consults .presence router.presence := by
  refine ⟨router.exists_grounded, ?_, fun forced => ?_, ?_⟩
  · exact router.consults_of_eq _ router.gate_eq
  · exact router.consults_of_eq _ fun message transcript =>
      router.critique_eq message transcript forced
  · exact router.consults_of_eq _ router.presence_eq

end Router

end Gadfly
