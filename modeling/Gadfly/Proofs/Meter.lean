/-
  Gadfly.Proofs.Meter

  What is reported of the cost of the completions.

  A completion that comes back with a response is paid for (`Exchange.bought?`), whatever becomes
  of its text. The reports of costs are matched with the responses one to one and in order: at any
  point of a dialogue at most one response is still to be reported, and then the very next call
  reports it (`Dialogue.Metered`). So the account is balanced (`Router.Balanced`) also when a
  dialogue is broken off, and so it is over a whole stream of messages.

  Main definitions: `Exchange.bought?`, `Exchange.bought`, `Exchange.costs`, `Dialogue.Metered`,
  `Router.Recorded`, `Router.Balanced`, `Serve.shares`, `Serve.log`, `Response.stated`.
  Main statements: `Course.balance`, `Metered.bind`, `metered_finish`, `balanced_handle`,
  `Serve.serve_noting`, `Router.costs_match_responses`.
-/

import Mathlib.Data.List.Forall2
import Gadfly.Proofs.Question
import Gadfly.Proofs.Response
import Gadfly.Serve

namespace Gadfly

open Dialogue

/-! ## What is bought and what is reported -/

/-- The report that a call makes of the cost of a completion. -/
def Call.cost? : Call → Option Notice
  | .report notice => if notice.text = "Completion cost" then some notice else none
  | _ => none

namespace Exchange

/-- What was asked and what came back, if something came back from the completion service. -/
def bought? : Exchange → Option (Request × Response)
  | ⟨.complete request, some (.ok response)⟩ => some (request, response)
  | _ => none

/-- All that came back from the completion service, in order (`bought?`). -/
def bought (trace : List Exchange) : List (Request × Response) :=
  trace.filterMap bought?

/-- The reports of costs, in order. -/
def costs (trace : List Exchange) : List Notice :=
  trace.filterMap fun e => e.call.cost?

@[simp] theorem bought_append (first second : List Exchange) :
    bought (first ++ second) = bought first ++ bought second :=
  List.filterMap_append

@[simp] theorem costs_append (first second : List Exchange) :
    costs (first ++ second) = costs first ++ costs second :=
  List.filterMap_append

theorem bought_cons (e : Exchange) (trace : List Exchange) :
    bought (e :: trace) = e.bought?.toList ++ bought trace := by
  rw [bought, List.filterMap_cons]
  cases e.bought? <;> rfl

theorem costs_cons (e : Exchange) (trace : List Exchange) :
    costs (e :: trace) = e.call.cost?.toList ++ costs trace := by
  rw [costs, List.filterMap_cons]
  cases e.call.cost? <;> rfl

theorem bought?_of_not_isComplete {e : Exchange} (h : e.call.isComplete = false) :
    e.bought? = none := by
  rcases e with ⟨call, answer⟩
  cases call with
  | complete request => cases h
  | _ => rfl

theorem bought?_broken (call : Call) : bought? ⟨call, none⟩ = none := by
  cases call <;> rfl

end Exchange

namespace Dialogue

/-! ## Dialogues that keep account -/

variable {α β : Type} {R : Request × Response → Notice → Prop} {due : Option (Request × Response)}

/-- Whatever the answers, a dialogue reports what is due by its next call (`Notice.cost`), and
reports a cost at no other time. A response is due right after it came back. -/
def Metered (R : Request × Response → Notice → Prop) :
    Option (Request × Response) → Dialogue α → Prop
  | due, .done _ => due = none
  | due, .ask call next =>
    List.Forall₂ R due.toList call.cost?.toList ∧
      ∀ answer, (next answer).Metered R (Exchange.bought? ⟨call, some answer⟩)

theorem metered_call {c : Call} (hcomplete : c.isComplete = false) (hcost : c.cost? = none) :
    (call c).Metered R none := by
  refine ⟨?_, fun answer => Exchange.bought?_of_not_isComplete hcomplete⟩
  rw [hcost]
  exact .nil

theorem Metered.bind {d : Dialogue α} {f : α → Dialogue β} (hd : d.Metered R due)
    (hf : ∀ value, (f value).Metered R none) : (d.bind f).Metered R due := by
  induction d generalizing due with
  | done value =>
    obtain rfl : due = none := hd
    exact hf value
  | ask call next ih => exact ⟨hd.1, fun answer => ih answer (hd.2 answer)⟩

/-- In every `Course` of a `Metered` dialogue, also in one that is broken off, what is due and what
is bought is reported, in order and nothing twice. -/
theorem Course.balance {d : Dialogue α} {trace : List Exchange} {result : Option α}
    (h : Course d trace result) (hd : d.Metered R due) :
    List.Forall₂ R (due.toList ++ Exchange.bought trace) (Exchange.costs trace) := by
  induction h generalizing due with
  | done value =>
    obtain rfl : due = none := hd
    exact .nil
  | @answered call next answer trace result _ ih =>
    -- The call reports what is due, and what it brings is due in the rest.
    have hrest := ih (hd.2 answer)
    rw [Exchange.bought_cons, Exchange.costs_cons]
    exact List.rel_append hd.1 hrest
  | @broken call next =>
    -- Nothing came back, but the report has been made.
    rw [Exchange.bought_cons, Exchange.costs_cons, Exchange.bought?_broken]
    exact List.rel_append hd.1 .nil

end Dialogue

namespace Router

variable (router : Router) {message : Message} {transcript : String}
  {R : Request × Response → Notice → Prop}

/-- The report of a cost fits a response: it names the message, what the question was for, the
model that was asked, and the counts that came with the response, or 0 where none came. -/
def Recorded (message : Message) (transcript : String) (bought : Request × Response)
    (notice : Notice) : Prop :=
  ∃ question : Question, bought.1 = question.request router transcript ∧
    notice = .cost message.id (Price.record router.prices question.purpose bought.1.model
      (bought.2.usage.elim 0 Usage.inputTokens) (bought.2.usage.elim 0 Usage.outputTokens))

/-- Whatever is bought for a message is a response to a question about its transcript, and is
reported (`Recorded`). -/
def Balanced (message : Message) (trace : List Exchange) : Prop :=
  ∃ transcript, router.Grounded message trace transcript ∧
    List.Forall₂ (router.Recorded message transcript) (Exchange.bought trace)
      (Exchange.costs trace)

/-! ## Every part keeps account -/

theorem metered_ask {question : Question} {purpose : Price.Purpose} {model prompt : String}
    (hrequest : ⟨model, prompt⟩ = question.request router transcript)
    (hpurpose : purpose = question.purpose) :
    (router.ask purpose model prompt message.id).Metered (router.Recorded message transcript)
      none := by
  refine ⟨.nil, fun answer => ?_⟩
  cases answer with
  | error fault => rfl
  | ok response =>
    have hrecorded : router.Recorded message transcript (⟨model, prompt⟩, response)
        (.cost message.id (Price.record router.prices purpose model response.normal.inputTokens
          response.normal.outputTokens)) := by
      refine ⟨question, hrequest, ?_⟩
      rw [hpurpose]
      cases husage : response.usage <;> simp [Response.normal, husage]
    exact ⟨.cons hrecorded .nil, fun _ => rfl⟩

theorem metered_settle {manner : Manner}
    (hnothing : ∀ notice ∈ manner.onNothing, (Call.report notice).cost? = none)
    (answer : Except ServiceFault Completion) : (settle message manner answer).Metered R none := by
  cases answer with
  | error fault => rfl
  | ok completion =>
    rw [settle]
    split
    · refine (metered_call rfl rfl).bind fun sent => ?_
      cases sent <;> rfl
    · split
      · rfl
      · rename_i notice hnotice
        exact (metered_call rfl (hnothing notice hnotice)).bind fun _ => rfl

theorem metered_write (mode : Mode) :
    (router.write message (router.manner mode message transcript)).Metered
      (router.Recorded message transcript) none := by
  have hnothing : ∀ notice ∈ (router.manner mode message transcript).onNothing,
      (Call.report notice).cost? = none := by
    cases mode with
    | direct =>
      -- Only a critique that has to be given is reported as missing.
      rintro _ ⟨⟩
      rfl
    | greeting => rintro _ ⟨⟩
    | passive => rintro _ ⟨⟩
  rw [write_eq]
  refine (metered_call rfl rfl).bind fun _ => ?_
  exact Metered.bind (router.metered_ask (Question.request_toAnswer mode).symm
    (Question.purpose_toAnswer mode).symm) (metered_settle hnothing)

theorem metered_passive :
    (router.passive message transcript).Metered (router.Recorded message transcript) none := by
  have hgate : (router.gate message transcript).Metered (router.Recorded message transcript)
      none := by
    have hrequest : ⟨router.settings.cheapModel, Prompt.gate transcript⟩ =
        Question.gate.request router transcript := rfl
    rw [gate_eq]
    exact (router.metered_ask hrequest rfl).bind fun _ => rfl
  have hcomment : (router.comment message transcript).Metered (router.Recorded message transcript)
      none := by
    rw [comment_eq]
    refine hgate.bind fun verdict => ?_
    rcases verdict with fault | _ | _
    · rfl
    · rfl
    · exact router.metered_write .passive
  refine hcomment.bind fun commented => ?_
  cases commented with
  | ok reply => rfl
  | error fault => exact (metered_call rfl rfl).bind fun _ => rfl

theorem metered_command : (command message).Metered R none := by
  refine (metered_call rfl rfl).bind fun answer => ?_
  cases answer with
  | none => rfl
  | some reply =>
    refine (metered_call rfl rfl).bind fun sent => ?_
    cases sent with
    | ok _ => rfl
    | error fault => exact metered_call rfl rfl

theorem metered_opening : (router.opening message).Metered R none := by
  have htranscript : (router.transcript message).Metered R none := by
    rw [Router.transcript, Transcript.gather]
    split
    · rfl
    · refine (metered_call rfl rfl).bind fun answer => ?_
      cases answer with
      | ok messages => rfl
      | error fault => exact (metered_call rfl rfl).bind fun _ => rfl
  refine (metered_call rfl rfl).bind fun _ => ?_
  exact htranscript.bind fun _ => rfl

theorem metered_finish (mode : Mode) :
    (router.finish mode message transcript).Metered (router.Recorded message transcript)
      none := by
  have hanswer : (router.answer mode message transcript).Metered
      (router.Recorded message transcript) none := by
    by_cases hmode : mode = .passive
    · rw [hmode]
      exact router.metered_passive
    · rw [router.answer_eq hmode]
      refine (router.metered_write mode).bind fun written => ?_
      cases written with
      | ok reply => rfl
      | error fault =>
        -- The first answer is paid for, and the fallback is metered on its own.
        have hreport : (Call.report (failure mode message.id fault)).cost? = none := by
          cases mode <;> rfl
        exact (metered_call rfl hreport).bind fun _ => router.metered_passive
  exact hanswer.bind fun _ => metered_command.bind fun _ => rfl

theorem balanced_handle (message : Message) {σ : Type} (partner : Partner σ) (s : σ) :
    router.Balanced message ((router.handle message).exchanges partner s) := by
  rcases router.exchanges_handle_cases message partner s with
    hnothing | hbroken | ⟨transcript, first, second, result, htrace, hfirst, hsecond⟩
  · rw [hnothing]
    exact ⟨"", grounded_of_unasked fun e he => absurd he List.not_mem_nil, .nil⟩
  · -- Without a transcript nothing is asked, so nothing is bought.
    have hunasked := hbroken.forall_of_only (router.only_opening_unasked message)
    exact ⟨"", grounded_of_unasked hunasked, hbroken.balance router.metered_opening⟩
  · rw [htrace]
    refine ⟨transcript, grounded_of_courses hfirst hsecond, ?_⟩
    rw [Exchange.bought_append, Exchange.costs_append]
    exact List.rel_append (hfirst.balance router.metered_opening)
      (hsecond.balance (router.metered_finish _))

end Router

/-! ## A stream of messages -/

namespace Serve

variable {σ : Type} (partner : Partner σ) (router : Router)

/-- What is exchanged for each of the messages that are handled one after the other. -/
def shares : List Message → σ → List (List Exchange)
  | [], _ => []
  | message :: rest, s =>
    (router.handle message).exchanges partner s ::
      shares rest ((router.handle message).run partner s).2

/-- All that is exchanged over a stream of events. -/
def log (events : List Event) (s : σ) : List Exchange :=
  (intake events).exchanges partner s ++
    (shares partner router (messages events) ((intake events).run partner s).2).flatten

theorem handleAll_noting (messages : List Message) (noted : List Exchange) (s : σ) :
    handleAll partner.noting router messages (noted, s) =
      ((handleAll partner router messages s).1,
        (noted ++ (shares partner router messages s).flatten,
          (handleAll partner router messages s).2)) := by
  induction messages generalizing noted s with
  | nil => simp [handleAll, shares]
  | cons message rest ih =>
    simp only [handleAll, run_noting, ih, shares, List.flatten_cons, List.append_assoc]

theorem serve_noting (events : List Event) (s : σ) :
    serve partner.noting router events ([], s) =
      ((serve partner router events s).1,
        (log partner router events s, (serve partner router events s).2)) := by
  simp only [serve, run_noting, handleAll_noting, log, List.nil_append]

variable {R : Request × Response → Notice → Prop}

theorem metered_reportAll (faults : List TransportFault) (inFlight : Nat) :
    (reportAll faults inFlight).Metered R none := by
  induction faults with
  | nil => exact metered_call rfl rfl
  | cons fault faults ih => exact (metered_call rfl rfl).bind fun _ => ih

theorem balanced_shares (messages : List Message) (s : σ) :
    List.Forall₂ router.Balanced messages (shares partner router messages s) := by
  induction messages generalizing s with
  | nil => exact .nil
  | cons message rest ih => exact .cons (router.balanced_handle message partner s) (ih _)

end Serve

namespace Router

variable (router : Router)

/-- The report of a cost fits a response to a question about one of the messages. -/
def RecordedAmong (messages : List Message) (bought : Request × Response) (notice : Notice) :
    Prop :=
  ∃ message ∈ messages, ∃ transcript, router.Recorded message transcript bought notice

variable {router}

/-- Accounts that are balanced one by one are balanced together. -/
theorem balance_flatten {messages : List Message} {shares : List (List Exchange)}
    (h : List.Forall₂ router.Balanced messages shares) :
    List.Forall₂ (router.RecordedAmong messages) (Exchange.bought shares.flatten)
      (Exchange.costs shares.flatten) := by
  induction h with
  | nil => exact .nil
  | @cons message share messages shares hshare _ ih =>
    obtain ⟨transcript, -, hrecorded⟩ := hshare
    rw [List.flatten_cons, Exchange.bought_append, Exchange.costs_append]
    apply List.rel_append
    · refine hrecorded.imp ?_
      intro bought notice h
      exact ⟨message, List.mem_cons_self, transcript, h⟩
    · refine ih.imp ?_
      rintro bought notice ⟨other, hother, h⟩
      exact ⟨other, List.mem_cons_of_mem _ hother, h⟩

theorem balance_log {σ : Type} (partner : Partner σ) (events : List Event) (s : σ) :
    List.Forall₂ (router.RecordedAmong (Serve.messages events))
      (Exchange.bought (Serve.log partner router events s))
      (Exchange.costs (Serve.log partner router events s)) := by
  rw [Serve.log, Exchange.bought_append, Exchange.costs_append]
  apply List.rel_append
  · exact (course_exchanges partner (Serve.intake events) s).balance (Serve.metered_reportAll _ _)
  · exact balance_flatten (Serve.balanced_shares partner router _ _)

end Router

/-! ## Counts that are missing -/

/-- How many tokens the body of a response states under a name. That is 0 when it says nothing of
the usage, or nothing of this count. -/
def Response.stated (place : Nat) (name : String) (body : Json) : Nat :=
  let count := do
    let usage ← body.field? 2 "usage"
    let count ← usage.field? place name
    count.natural? tokenBound
  count.getD 0

theorem Usage.counts_of_ofJson? {j : Json} {usage : Usage} (h : Usage.ofJson? j = some usage) :
    usage.inputTokens =
        ((j.field? 0 "input_tokens").bind (Json.natural? tokenBound)).getD 0 ∧
      usage.outputTokens =
        ((j.field? 1 "output_tokens").bind (Json.natural? tokenBound)).getD 0 := by
  obtain ⟨-, hinput, houtput, -⟩ := Usage.ofJson?_eq_some_iff.1 h
  exact ⟨Json.eq_of_orElse hinput, Json.eq_of_orElse houtput⟩

theorem Response.usage_of_ofJson? {body : Json} {response : Response}
    (h : Response.ofJson? body = some response) :
    response.usage.elim 0 Usage.inputTokens = Response.stated 0 "input_tokens" body ∧
      response.usage.elim 0 Usage.outputTokens = Response.stated 1 "output_tokens" body := by
  obtain ⟨-, -, -, husage, -⟩ := Response.ofJson?_eq_some_iff.1 h
  simp only [Response.stated, Option.bind_eq_bind]
  generalize body.field? 2 "usage" = slot at husage
  rw [Json.optional.eq_def] at husage
  split at husage
  · -- There is no usage.
    rw [← Option.some.inj husage]
    exact ⟨rfl, rfl⟩
  · rw [← Option.some.inj husage]
    exact ⟨rfl, rfl⟩
  · obtain ⟨counts, hcounts, hsome⟩ := Option.map_eq_some_iff.1 husage
    rw [← hsome]
    exact Usage.counts_of_ofJson? hcounts

/-- However the partner behaves, the reports of costs match what comes back from the completion
service one to one and in order, for each message (`handle`) and over a whole stream of events
(`serve`). The counts are those that the body of the response states (`Response.stated`). -/
theorem Router.costs_match_responses (router : Router) :
    (∀ (message : Message) {σ : Type} (partner : Partner σ) (s : σ),
      router.Balanced message ((router.handle message).exchanges partner s)) ∧
    (∀ (events : List Event) {σ : Type} (partner : Partner σ) (s : σ),
      serve partner.noting router events ([], s) =
        ((serve partner router events s).1,
          (Serve.log partner router events s, (serve partner router events s).2)) ∧
      List.Forall₂ router.Balanced (Serve.messages events)
        (Serve.shares partner router (Serve.messages events)
          ((Serve.intake events).run partner s).2) ∧
      List.Forall₂ (router.RecordedAmong (Serve.messages events))
        (Exchange.bought (Serve.log partner router events s))
        (Exchange.costs (Serve.log partner router events s))) ∧
    ∀ body response, Response.ofJson? body = some response →
      response.usage.elim 0 Usage.inputTokens = Response.stated 0 "input_tokens" body ∧
        response.usage.elim 0 Usage.outputTokens = Response.stated 1 "output_tokens" body := by
  refine ⟨router.balanced_handle, fun events σ partner s => ⟨?_, ?_, ?_⟩, fun _ _ => ?_⟩
  · exact Serve.serve_noting partner router events s
  · exact Serve.balanced_shares partner router _ _
  · exact balance_log partner events s
  · exact Response.usage_of_ofJson?

section Scene

open Rehearsal

/-- A body that states one of the counts only. -/
def halfCounted : Json :=
  .object [("output_text", .string "no"), ("usage", .object [("input_tokens", .ofNat 7)])]

theorem costs_match_responses_of_scene :
    (Exchange.bought ((bot.handle claim).exchanges partner scene)).length = 3 ∧
    (Exchange.costs ((bot.handle claim).exchanges partner scene)).length = 3 ∧
    Response.ofJson? halfCounted = some ⟨some "no", [], some ⟨7, 0, 0⟩, none⟩ ∧
    Response.stated 0 "input_tokens" halfCounted = 7 ∧
    Response.stated 1 "output_tokens" halfCounted = 0 := by
  have hbought : (Exchange.bought ((bot.handle claim).exchanges partner scene)).length = 3 := by
    decide +kernel
  have hbody : Response.ofJson? halfCounted = some ⟨some "no", [], some ⟨7, 0, 0⟩, none⟩ := by
    decide +kernel
  obtain ⟨_, -, hrecorded⟩ := (Router.costs_match_responses bot).1 claim partner scene
  obtain ⟨hinput, houtput⟩ := (Router.costs_match_responses bot).2.2 _ _ hbody
  exact ⟨hbought, hrecorded.length_eq ▸ hbought, hbody, hinput.symm, houtput.symm⟩

end Scene

end Gadfly
