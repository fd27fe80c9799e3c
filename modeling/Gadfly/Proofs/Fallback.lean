/-
  Gadfly.Proofs.Fallback

  Falling back to the passive answer.

  A message that addresses or greets the bot is first answered in its own manner
  (`Router.attempt`). When that attempt fails, what follows is what `Router.passive` would do for
  a message that goes by, with the same transcript and whatever the outside still has to offer;
  only the outcome keeps the mode of the message (`FallsBackOnFailure`). An attempt fails when the
  model does not answer or the answer is not delivered (`attempt_failed_iff`). An answer of which
  nothing is left is no failure.

  Main definitions: `Router.attempt`, `Router.FellBack`, `Router.FallsBackOnFailure`,
  `Outcome.inMode`.
  Main statements: `finish_eq`, `fellBack_handle_iff`, `attempt_failed_iff`,
  `fallback_iff_attempt_failed`.
-/

import Gadfly.Proofs.Course
import Gadfly.Proofs.Prompt

namespace Gadfly

open Dialogue

/-- The same outcome in another mode. -/
def Outcome.inMode (mode : Mode) : Outcome → Outcome
  | .ignored => .ignored
  | .replied _ text => .replied mode text
  | .silent _ => .silent mode

/-- Whether a completion or a delivery failed. -/
def Exchange.isFailure : Exchange → Bool
  | ⟨.complete _, some (.error _)⟩ => true
  | ⟨.send _ _, some (.error _)⟩ => true
  | _ => false

theorem Exchange.isSome_of_isFailure {e : Exchange} (h : e.isFailure = true) :
    e.answer.isSome := by
  rw [isFailure.eq_def] at h
  split at h
  · rfl
  · rfl
  · cases h

namespace Router

variable (router : Router)

/-! ## The first answer -/

/-- The first answer to a message that concerns the bot: `direct` or `greet`, by its mode. -/
def attempt (message : Message) (transcript : String) :
    Dialogue (Except Fault (Option String)) :=
  match router.classify message with
  | .greeting => router.greet message transcript
  | _ => router.direct message transcript

/-- What is reported when the first answer fails. -/
def warning (message : Message) (fault : Fault) : Notice :=
  failure (router.classify message) message.id fault

theorem attempt_eq_write {message : Message} (hmode : router.classify message ≠ .passive)
    (transcript : String) :
    router.attempt message transcript =
      router.write message (router.manner (router.classify message) message transcript) := by
  rw [attempt]
  cases hclass : router.classify message with
  | direct => exact router.direct_eq_write message transcript
  | greeting => exact router.greet_eq_write message transcript
  | passive => exact absurd hclass hmode

/-- A message that concerns the bot is finished by `command` after a successful `attempt`, and like
a message that goes by (`passive`) after a failed one. -/
theorem finish_eq {message : Message} (hmode : router.classify message ≠ .passive)
    (transcript : String) :
    router.finish (router.classify message) message transcript =
      (router.attempt message transcript).bind fun
        | .ok reply =>
          (command message).bind fun _ => .done (outcome (router.classify message) reply)
        | .error fault =>
          (report (router.warning message fault)).bind fun _ =>
            (router.finish .passive message transcript).bind fun result =>
              .done (result.inMode (router.classify message)) := by
  have hrelabel : ∀ mode reply, (outcome .passive reply).inMode mode = outcome mode reply := by
    intro mode reply
    cases reply <;> rfl
  simp only [finish, router.answer_eq hmode, router.attempt_eq_write hmode, warning, bind_eq,
    pure_eq, bind_assoc]
  -- The two differ at most in what follows upon the first answer.
  congr 1
  funext written
  cases written with
  | ok reply => rfl
  | error fault => simp only [answer, bind_assoc, done_bind, hrelabel]

/-! ## When an attempt fails -/

variable {router} {message : Message} {transcript : String}

/-- A failed completion and a failed delivery end the writing of an answer. -/
theorem endsUpon_write (message : Message) (manner : Manner) :
    (router.write message manner).EndsUpon (fun e => e.isFailure = true)
      fun result => ∃ fault, result = .error fault := by
  -- The typing call comes first, and how it goes is of no consequence.
  intro typed
  refine ⟨?_, fun h => Bool.noConfusion h⟩
  intro answer
  cases answer with
  | error fault => exact ⟨trivial, fun _ => ⟨_, rfl, _, rfl⟩⟩
  | ok response =>
    refine ⟨?_, fun h => Bool.noConfusion h⟩
    intro reported
    refine ⟨?_, fun h => Bool.noConfusion h⟩
    -- What is left of the dialogue depends on the editing alone.
    show EndsUpon _ _ (settle message manner (.ok response.normal))
    rw [settle]
    split
    · intro sent
      cases sent with
      | ok _ => exact ⟨trivial, fun h => Bool.noConfusion h⟩
      | error fault => exact ⟨trivial, fun _ => ⟨_, rfl, _, rfl⟩⟩
    · split
      · trivial
      · intro noted
        exact ⟨trivial, fun h => Bool.noConfusion h⟩

theorem Written.exists_failure {manner : Manner} {trace : List Exchange} {fault : Fault}
    (h : router.Written message manner trace (.error fault)) :
    ∃ e ∈ trace, e.isFailure = true := by
  generalize hresult : (.error fault : Except Fault (Option String)) = result at h
  cases h with
  | failed typed fault => exact ⟨_, List.mem_cons_of_mem _ List.mem_cons_self, rfl⟩
  | withheld typed response hedit => cases hresult
  | sent typed response text hedit sent =>
    cases sent with
    | ok _ => cases hresult
    | error fault => exact ⟨_, List.mem_append_right _ List.mem_cons_self, rfl⟩

/-- An answer fails when, and only when, a completion or a delivery fails. -/
theorem write_failed_iff {σ : Type} (router : Router) (message : Message) (manner : Manner)
    (partner : Partner σ) (s : σ) :
    (∃ fault, ((router.write message manner).run partner s).1 = some (.error fault)) ↔
      ∃ e ∈ (router.write message manner).exchanges partner s, e.isFailure = true := by
  have hcourse := course_exchanges partner (router.write message manner) s
  constructor
  · rintro ⟨fault, hfault⟩
    rw [hfault] at hcourse
    exact (router.course_write hcourse).exists_failure
  · rintro ⟨e, he, hfailure⟩
    obtain ⟨result, hresult, fault, rfl⟩ :=
      hcourse.exists_of_endsUpon (endsUpon_write message manner) he
        (Exchange.isSome_of_isFailure hfailure) hfailure
    exact ⟨fault, hresult⟩

/-- A forced critique of which nothing is left does not fail. -/
theorem Written.not_error_of_stripped {trace : List Exchange} {fault : Fault}
    {request : Request} {response : Response}
    (h : router.Written message (router.forced message transcript) trace (.error fault))
    (hresponse : ⟨.complete request, some (.ok response)⟩ ∈ trace) :
    stripSentinel response.normal.text ≠ "" := by
  generalize hresult : (.error fault : Except Fault (Option String)) = result at h
  -- Only a delivery can still fail after the model answered, and then something was left.
  cases h with
  | failed typed fault => simp [asking] at hresponse
  | withheld typed response hedit => cases hresult
  | sent typed response' text hedit sent =>
    have hsame : response = response' := by
      simp only [asking, List.mem_append, List.mem_cons, Exchange.mk.injEq, reduceCtorEq,
        false_and, or_false, false_or, List.not_mem_nil, Call.complete.injEq] at hresponse
      simpa using hresponse.2
    intro hstripped
    rw [← hsame] at hedit
    simp [forced, hstripped] at hedit

/-! ## The gate's question -/

/-- Whether the handling of a message came to the `passive` answer: the gate was asked about the
transcript. -/
def FellBack (router : Router) (transcript : String) (trace : List Exchange) : Prop :=
  ∃ answer, ⟨.complete ⟨router.settings.cheapModel, Prompt.gate transcript⟩, answer⟩ ∈ trace

theorem fellBack_append {first second : List Exchange} :
    router.FellBack transcript (first ++ second) ↔
      router.FellBack transcript first ∨ router.FellBack transcript second := by
  simp only [FellBack, List.mem_append, exists_or]

/-- A dialogue without completions does not fall back. -/
theorem not_fellBack_of_only {σ α : Type} {d : Dialogue α}
    (hd : d.Only fun call => call.isComplete = false) (partner : Partner σ) (s : σ) :
    ¬ router.FellBack transcript (d.exchanges partner s) := by
  rintro ⟨answer, hanswer⟩
  exact Bool.noConfusion (forall_exchanges_of_only hd partner s _ hanswer)

theorem not_fellBack_opening {σ : Type} (partner : Partner σ) (s : σ) :
    ¬ router.FellBack transcript ((router.opening message).exchanges partner s) :=
  not_fellBack_of_only (router.only_opening rfl fun _ => rfl) partner s

theorem not_fellBack_command {σ : Type} (router : Router) (message : Message)
    (transcript : String) (partner : Partner σ) (s : σ) :
    ¬ router.FellBack transcript ((command message).exchanges partner s) :=
  not_fellBack_of_only (only_command rfl (fun _ => rfl) fun _ => rfl) partner s

theorem gate_ne_prompt_manner (mode : Mode) :
    Prompt.gate transcript ≠ (router.manner mode message transcript).prompt := by
  cases mode with
  | direct => exact Prompt.gate_ne_critique _ _ _
  | greeting => exact Prompt.gate_ne_presence _ _
  | passive => exact Prompt.gate_ne_critique _ _ _

theorem not_fellBack_write {σ : Type} (mode : Mode) (partner : Partner σ) (s : σ) :
    ¬ router.FellBack transcript
      ((router.write message (router.manner mode message transcript)).exchanges partner s) := by
  have honly : (router.write message (router.manner mode message transcript)).Only
      fun call => call ≠ .complete ⟨router.settings.cheapModel, Prompt.gate transcript⟩ := by
    refine router.only_write ?_ ?_ ?_ ?_
    · exact Call.ne_complete rfl _
    · -- The models may be the same, but not the prompts.
      intro h
      have hprompt := congrArg Request.prompt (Call.complete.inj h)
      exact gate_ne_prompt_manner mode hprompt.symm
    · intro text
      exact Call.ne_complete rfl _
    · intro notice
      exact Call.ne_complete rfl _
  rintro ⟨answer, hanswer⟩
  exact forall_exchanges_of_only honly partner s _ hanswer rfl

/-- The passive answer begins with the gate's question. -/
theorem fellBack_finish {σ : Type} (partner : Partner σ) (s : σ) :
    router.FellBack transcript
      ((router.finish .passive message transcript).exchanges partner s) := by
  have hask : ∃ next, router.finish .passive message transcript =
      .ask (.complete ⟨router.settings.cheapModel, Prompt.gate transcript⟩) next := ⟨_, rfl⟩
  obtain ⟨next, hask⟩ := hask
  rw [hask, exchanges_ask]
  rcases partner s _ with ⟨_ | answer, t⟩
  · exact ⟨none, List.mem_cons_self⟩
  · exact ⟨some answer, List.mem_cons_self⟩

/-! ## Falling back -/

/-- What comes of a message once a first answer has been tried, by the exchanges `tried`, with a
result, and leaving the outside in the state `u`. The exchanges before that are `opened`. -/
structure FallsBackOnFailure {σ : Type} (router : Router) (message : Message)
    (partner : Partner σ) (s : σ) (transcript : String) (opened tried : List Exchange)
    (result : Option (Except Fault (Option String))) (u : σ) : Prop where
  /-- The passive answer is tried exactly when the first one failed. -/
  fellBack_iff : router.FellBack transcript ((router.handle message).exchanges partner s) ↔
    ∃ fault, result = some (.error fault)
  /-- The first answer failed exactly when its completion or its delivery did. -/
  failed_iff : (∃ fault, result = some (.error fault)) ↔ ∃ e ∈ tried, e.isFailure = true
  /-- A forced critique of which nothing is left is no failure. -/
  stripped : router.classify message = .direct → ∀ request response,
    ⟨.complete request, some (.ok response)⟩ ∈ tried → stripSentinel response.normal.text = "" →
      ¬ router.FellBack transcript ((router.handle message).exchanges partner s)
  /-- After a failure everything goes on as for a message that goes by, with the outside as the
  first answer left it; the outcome is the same but for the mode. -/
  after_failure : ∀ fault, result = some (.error fault) →
    ∃ v, partner u (.report (router.warning message fault)) = (some (), v) ∧
      ∀ rest passive w, Held partner (router.finish .passive message transcript) v rest passive w →
        Held partner (router.handle message) s
          (opened ++ (tried ++ ⟨.report (router.warning message fault), some ()⟩ :: rest))
          (passive.map (Outcome.inMode (router.classify message))) w
  /-- After a success only the commands are left. -/
  after_success : ∀ reply, result = some (.ok reply) →
    ∀ closing ended v, Held partner (command message) u closing ended v →
      Held partner (router.handle message) s (opened ++ (tried ++ closing))
        (ended.map fun _ => outcome (router.classify message) reply) v
  /-- Nothing comes after an answer that was broken off. -/
  after_break : result = none → Held partner (router.handle message) s (opened ++ tried) none u

section Stages

variable {σ : Type} {partner : Partner σ} {s t u : σ} {opened tried : List Exchange}
  {result : Option (Except Fault (Option String))}

/-- After a failed attempt the message is finished as one that goes by. -/
theorem held_finish_of_error (hmode : router.classify message ≠ .passive)
    {fault : Fault} {v w : σ} {rest : List Exchange} {passive : Option Outcome}
    (hattempt : Held partner (router.attempt message transcript) t tried (some (.error fault)) u)
    (hreport : partner u (.report (router.warning message fault)) = (some (), v))
    (hpassive : Held partner (router.finish .passive message transcript) v rest passive w) :
    Held partner (router.finish (router.classify message) message transcript) t
      (tried ++ ⟨.report (router.warning message fault), some ()⟩ :: rest)
      (passive.map (Outcome.inMode (router.classify message))) w := by
  rw [router.finish_eq hmode]
  exact hattempt.bind ((held_call hreport).bind (hpassive.map _))

theorem held_finish_of_ok (hmode : router.classify message ≠ .passive) {reply : Option String}
    {closing : List Exchange} {ended : Option Unit} {v : σ}
    (hattempt : Held partner (router.attempt message transcript) t tried (some (.ok reply)) u)
    (hcommand : Held partner (command message) u closing ended v) :
    Held partner (router.finish (router.classify message) message transcript) t
      (tried ++ closing) (ended.map fun _ => outcome (router.classify message) reply) v := by
  rw [router.finish_eq hmode]
  exact hattempt.bind (hcommand.map _)

theorem held_finish_of_none (hmode : router.classify message ≠ .passive)
    (hattempt : Held partner (router.attempt message transcript) t tried none u) :
    Held partner (router.finish (router.classify message) message transcript) t tried none u := by
  rw [router.finish_eq hmode]
  exact hattempt.bind_of_none

/-- What is said of the rest of the handling holds of the whole. -/
theorem held_handle (hbot : message.fromBot = false)
    (hopening : Held partner (router.opening message) s opened (some transcript) t)
    {rest : List Exchange} {ended : Option Outcome}
    (hfinish : Held partner (router.finish (router.classify message) message transcript) t rest
      ended u) :
    Held partner (router.handle message) s (opened ++ rest) ended u := by
  rw [router.handle_eq hbot]
  exact hopening.bind hfinish

theorem not_fellBack_attempt (hmode : router.classify message ≠ .passive)
    (hattempt : Held partner (router.attempt message transcript) t tried result u) :
    ¬ router.FellBack transcript tried := by
  rw [← hattempt.exchanges_eq, router.attempt_eq_write hmode]
  exact not_fellBack_write _ partner t

/-- The passive answer is tried (`FellBack`) exactly when the first one failed. -/
theorem fellBack_handle_iff (hbot : message.fromBot = false)
    (hmode : router.classify message ≠ .passive) (hreports : partner.TakesReports)
    (hopening : Held partner (router.opening message) s opened (some transcript) t)
    (hattempt : Held partner (router.attempt message transcript) t tried result u) :
    router.FellBack transcript ((router.handle message).exchanges partner s) ↔
      ∃ fault, result = some (.error fault) := by
  have hopened : ¬ router.FellBack transcript opened :=
    hopening.exchanges_eq ▸ not_fellBack_opening partner s
  have htried := not_fellBack_attempt hmode hattempt
  -- Neither the opening, nor the first answer, nor the commands ask the gate.
  rcases result with _ | fault | reply
  · have hhandle := held_handle hbot hopening (held_finish_of_none hmode hattempt)
    rw [hhandle.exchanges_eq, fellBack_append]
    simp [hopened, htried]
  · obtain ⟨v, hv⟩ := hreports u (router.warning message fault)
    have hhandle := held_handle hbot hopening
      (held_finish_of_error hmode hattempt hv ⟨rfl, rfl⟩)
    -- What follows is the passive answer, which asks the gate first.
    refine iff_of_true ?_ ⟨fault, rfl⟩
    rw [hhandle.exchanges_eq, ← List.singleton_append]
    simp only [fellBack_append]
    exact .inr (.inr (.inr (fellBack_finish partner v)))
  · have hcommand := router.not_fellBack_command message transcript partner u
    have hhandle := held_handle hbot hopening
      (held_finish_of_ok hmode hattempt ⟨rfl, rfl⟩)
    rw [hhandle.exchanges_eq]
    simp [fellBack_append, hopened, htried, hcommand]

/-- The first answer fails exactly when its completion or its delivery does
(`Exchange.isFailure`). -/
theorem attempt_failed_iff (hmode : router.classify message ≠ .passive)
    (hattempt : Held partner (router.attempt message transcript) t tried result u) :
    (∃ fault, result = some (.error fault)) ↔ ∃ e ∈ tried, e.isFailure = true := by
  have hfailed := router.write_failed_iff message
    (router.manner (router.classify message) message transcript) partner t
  rw [← router.attempt_eq_write hmode, hattempt.run_eq, hattempt.exchanges_eq] at hfailed
  exact hfailed

theorem attempt_not_failed_of_stripped (hdirect : router.classify message = .direct)
    (hattempt : Held partner (router.attempt message transcript) t tried result u)
    {request : Request} {response : Response}
    (hresponse : ⟨.complete request, some (.ok response)⟩ ∈ tried)
    (hstripped : stripSentinel response.normal.text = "") :
    ¬ ∃ fault, result = some (.error fault) := by
  rintro ⟨fault, rfl⟩
  have hcourse := course_exchanges partner (router.attempt message transcript) t
  rw [hattempt.exchanges_eq, hattempt.run_eq, router.attempt_eq_write (hdirect ▸ nofun),
    hdirect] at hcourse
  exact (router.course_write hcourse).not_error_of_stripped hresponse hstripped

end Stages

/-- A message that addresses or greets the bot is answered as one that goes by (`passive`) exactly
when the first answer (`attempt`) failed, from where that left things. When already the `opening` is
broken off, nothing follows. -/
theorem fallback_iff_attempt_failed {σ : Type} (router : Router) {message : Message}
    (hbot : message.fromBot = false) (hmode : router.classify message ≠ .passive)
    (partner : Partner σ) (hreports : partner.TakesReports) (s : σ) :
    (∀ opened t, Held partner (router.opening message) s opened none t →
      Held partner (router.handle message) s opened none t) ∧
    ∀ opened transcript t,
      Held partner (router.opening message) s opened (some transcript) t →
      ∀ tried result u, Held partner (router.attempt message transcript) t tried result u →
        FallsBackOnFailure router message partner s transcript opened tried result u := by
  constructor
  · intro opened t hopening
    rw [router.handle_eq hbot]
    exact hopening.bind_of_none
  · intro opened transcript t hopening tried result u hattempt
    have hfellBack := fellBack_handle_iff hbot hmode hreports hopening hattempt
    refine ⟨hfellBack, attempt_failed_iff hmode hattempt, ?_, ?_, ?_, ?_⟩
    · intro hdirect request response hresponse hstripped
      rw [hfellBack]
      exact attempt_not_failed_of_stripped hdirect hattempt hresponse hstripped
    · rintro fault rfl
      obtain ⟨v, hv⟩ := hreports u (router.warning message fault)
      refine ⟨v, hv, ?_⟩
      intro rest passive w hpassive
      exact held_handle hbot hopening (held_finish_of_error hmode hattempt hv hpassive)
    · rintro reply rfl closing ended v hcommand
      exact held_handle hbot hopening (held_finish_of_ok hmode hattempt hcommand)
    · rintro rfl
      exact held_handle hbot hopening (held_finish_of_none hmode hattempt)

section Scene

open Rehearsal

/-- The transcript and the state to which the opening leads in the scene. -/
def afterOpening : Option String × Set :=
  (bot.opening claim).run partner scene

theorem fallback_after_lost_reply :
    claim.fromBot = false ∧ bot.classify claim ≠ .passive ∧ partner.TakesReports ∧
    ∃ opened transcript t tried result u,
      Held partner (bot.opening claim) scene opened (some transcript) t ∧
      Held partner (bot.attempt claim transcript) t tried result u ∧
      FallsBackOnFailure bot claim partner scene transcript opened tried result u ∧
      bot.FellBack transcript ((bot.handle claim).exchanges partner scene) := by
  have hbot : claim.fromBot = false := rfl
  have hmode : bot.classify claim ≠ .passive := by decide +kernel
  have hreports : partner.TakesReports := fun s notice => ⟨_, rfl⟩
  have hopened : ((bot.opening claim).run partner scene).1 = some (afterOpening.1.getD "") := by
    decide +kernel
  have hlost : ∃ e ∈ (bot.attempt claim (afterOpening.1.getD "")).exchanges partner afterOpening.2,
      e.isFailure = true := by
    decide +kernel
  have hopening := held_run partner (bot.opening claim) scene
  rw [hopened] at hopening
  have hattempt := held_run partner (bot.attempt claim (afterOpening.1.getD "")) afterOpening.2
  have hfallback := (fallback_iff_attempt_failed bot hbot hmode partner hreports scene).2
    _ _ _ hopening _ _ _ hattempt
  exact ⟨hbot, hmode, hreports, _, _, _, _, _, _, hopening, hattempt, hfallback,
    hfallback.fellBack_iff.2 (hfallback.failed_iff.2 hlost)⟩

end Scene

end Router

end Gadfly
