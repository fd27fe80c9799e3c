/-
  Gadfly.Proofs.Order

  The order in which a message is handled.

  A message by a person may be met with failures at every step, and one answer may be tried after
  another; still the calls follow one plan (`Router.Orderly`). A history, if one is wanted, comes
  first. The models are asked in one of few orders, according to the mode of the message (`Tier`,
  `GateRule`). Whenever an answer is to be written, and only then, that is shown in the channel
  right before (`TypingRule`). The commands come last.

  The plan is stated on the exchanges without the reports. They are cut into segments
  (`Router.Segment`), each of which follows the rules about the models, and two segments in a row
  make one.

  Main definitions: `Tier`, `Router.tier?`, `Router.GateRule`, `Router.TypingRule`,
  `Router.Orderly`, `Router.Segment`.
  Main statements: `Segment.append`, `Segment.cons_gate`, `orderly_of_parts`, `handle_orderly`.
-/

import Mathlib.Data.List.DropRight
import Gadfly.Proofs.Course
import Gadfly.Proofs.Prompt
import Gadfly.Stage

namespace Gadfly

namespace Exchange

/-- The typing calls that stand at the end of a list of exchanges. -/
def announcements (trace : List Exchange) : List Call :=
  (trace.map Exchange.call).rtakeWhile Call.isTyping

/-- Exchanges that do not end with a typing call do not count for what comes after them. -/
theorem announcements_append {first : List Exchange} (h : announcements first = [])
    (second : List Exchange) : announcements (first ++ second) = announcements second := by
  rw [announcements, List.rtakeWhile, List.reverse_eq_nil_iff] at h
  rw [announcements, announcements, List.rtakeWhile, List.rtakeWhile, List.map_append,
    List.reverse_append, List.takeWhile_append, h]
  split
  · rename_i hall
    rw [List.append_nil, (List.takeWhile_prefix _).eq_of_length hall]
  · rfl

end Exchange

/-! ## Tiers -/

/-- The two tiers of models. -/
inductive Tier where
  | cheap
  | expensive
  deriving Repr, DecidableEq

namespace Router

variable (router : Router)

/-- The questions for which an answer is written. -/
def replyPrompts (transcript : String) : List String :=
  [Prompt.critique router.persona transcript true, Prompt.critique router.persona transcript false,
    Prompt.presence router.persona transcript]

/-- The `Tier` that a question about a transcript is for: the gate's is for the cheap one, and the
ones for which an answer is written are for the expensive one. -/
def tier? (transcript : String) (request : Request) : Option Tier :=
  if request = ⟨router.settings.cheapModel, Prompt.gate transcript⟩ then some .cheap
  else if request.model = router.settings.expensiveModel ∧
      request.prompt ∈ router.replyPrompts transcript then some .expensive
  else none

/-- The tiers of the questions among exchanges. -/
def tiers (transcript : String) (trace : List Exchange) : List (Option Tier) :=
  (Call.requests (trace.map Exchange.call)).map (router.tier? transcript)

theorem tier?_gate (transcript : String) :
    router.tier? transcript ⟨router.settings.cheapModel, Prompt.gate transcript⟩ = some .cheap := by
  rw [tier?, if_pos rfl]

/-- No question for which an answer is written can be taken for the gate's, even when both tiers
are served by one model. -/
theorem tier?_reply {transcript prompt : String} (h : prompt ∈ router.replyPrompts transcript) :
    router.tier? transcript ⟨router.settings.expensiveModel, prompt⟩ = some .expensive := by
  have hne : Prompt.gate transcript ≠ prompt := by
    simp only [replyPrompts, List.mem_cons, List.not_mem_nil, or_false] at h
    rcases h with rfl | rfl | rfl
    · exact Prompt.gate_ne_critique _ _ _
    · exact Prompt.gate_ne_critique _ _ _
    · exact Prompt.gate_ne_presence _ _
  -- The models need not differ, so the prompts have to.
  rw [tier?, if_neg, if_pos ⟨rfl, h⟩]
  intro heq
  exact hne (congrArg Request.prompt heq).symm

theorem tiers_append (transcript : String) (first second : List Exchange) :
    router.tiers transcript (first ++ second) =
      router.tiers transcript first ++ router.tiers transcript second := by
  simp only [tiers, List.map_append, Call.requests_append]

/-- The tiers that may be asked about a message, in order. -/
def tierWords : Mode → List (List Tier)
  | .passive => [[.cheap], [.cheap, .expensive]]
  | .direct | .greeting =>
    [[.expensive], [.expensive, .cheap], [.expensive, .cheap, .expensive]]

/-- Whether an answer to the gate's question is a yes. -/
def affirms : Option (Except ServiceFault Response) → Bool
  | some (.ok response) => isAffirmative response.normal.text
  | _ => false

/-- After a yes of the cheap tier the expensive one is asked, and after nothing else. -/
def GateRule (transcript : String) (trace : List Exchange) : Prop :=
  ∀ before request answer after, trace = before ++ ⟨.complete request, answer⟩ :: after →
    router.tier? transcript request = some .cheap →
      router.tiers transcript after = if affirms answer then [some .expensive] else []

/-- Right before the expensive tier is asked, it is shown once in the channel that an answer is
being written; right before the cheap one is asked, it is not. -/
def TypingRule (channel transcript : String) (trace : List Exchange) : Prop :=
  ∀ before request answer after, trace = before ++ ⟨.complete request, answer⟩ :: after →
    (router.tier? transcript request = some .expensive →
      Exchange.announcements before = [.typing channel]) ∧
    (router.tier? transcript request = some .cheap → Exchange.announcements before = [])

/-- The transcript that is made of a message when the exchanges begin as in `trace`. -/
def heard (message : Message) (trace : List Exchange) : String :=
  match trace with
  | ⟨.history .., some (.ok messages)⟩ :: _ =>
    (Transcript.build router.settings.truncateLength router.settings.historyCount message
      messages).render
  | _ =>
    (Transcript.build router.settings.truncateLength router.settings.historyCount message []).render

/-- What the handling of a message by a person may exchange with the outside, reports apart. -/
structure Orderly (message : Message) (trace : List Exchange) : Prop where
  /-- The history is fetched once and first, or never if none is wanted. -/
  history : if router.settings.historyCount = 0 then ∀ e ∈ trace, e.call.isHistory = false
    else ∃ answer rest,
      trace = ⟨.history message.channel message.id router.settings.historyCount, answer⟩ :: rest ∧
        ∀ e ∈ rest, e.call.isHistory = false
  tiers : ∃ word ∈ tierWords (router.classify message),
    router.tiers (router.heard message trace) trace = word.map some
  gate : router.GateRule (router.heard message trace) trace
  typing : router.TypingRule message.channel (router.heard message trace) trace
  /-- The commands see the message once, and nothing comes after that but their answer. -/
  dispatch : ∃ before answer after,
    trace = before ++ ⟨.dispatch message, some answer⟩ :: after ∧
      (∀ e ∈ before, e.call.isDispatch = false) ∧
      match answer with
      | none => after = []
      | some reply => ∃ result, after = [⟨.send message reply, some result⟩]

/-! ## Segments of a trace -/

variable {router} {channel transcript : String}

theorem mem_tiers (router : Router) (transcript : String) {trace : List Exchange}
    {request : Request} {answer : Option (Except ServiceFault Response)}
    (h : ⟨.complete request, answer⟩ ∈ trace) :
    router.tier? transcript request ∈ router.tiers transcript trace := by
  refine List.mem_map_of_mem ?_
  rw [Call.requests, List.mem_filterMap]
  exact ⟨.complete request, List.mem_map_of_mem h, rfl⟩

/-- A member of two lists in a row is in the first or in the second. -/
theorem split_append {α : Type} {first second before after : List α} {x : α}
    (h : first ++ second = before ++ x :: after) :
    (∃ rest, first = before ++ x :: rest ∧ after = rest ++ second) ∨
      (∃ rest, before = first ++ rest ∧ second = rest ++ x :: after) := by
  rcases List.append_eq_append_iff.1 h with ⟨rest, hbefore, hsecond⟩ | ⟨rest, hfirst, hafter⟩
  · exact .inr ⟨rest, hbefore, hsecond⟩
  · cases rest with
    | nil => exact .inr ⟨[], by rw [hfirst, List.append_nil, List.append_nil], hafter.symm⟩
    | cons y rest =>
      obtain ⟨rfl, rfl⟩ := List.cons.inj hafter
      exact .inl ⟨rest, hfirst, rfl⟩

/-- A stretch of exchanges that asks the given tiers by the rules, and that does not end with a
typing call. -/
structure Segment (router : Router) (channel transcript : String) (word : List Tier)
    (trace : List Exchange) : Prop where
  tiers : router.tiers transcript trace = word.map some
  gate : router.GateRule transcript trace
  typing : router.TypingRule channel transcript trace
  settled : Exchange.announcements trace = []

/-- A stretch without questions. -/
theorem Segment.of_tiers_eq_nil {trace : List Exchange}
    (htiers : router.tiers transcript trace = [])
    (hsettled : Exchange.announcements trace = []) :
    Segment router channel transcript [] trace := by
  have hnone : ∀ request answer, ⟨.complete request, answer⟩ ∉ trace := by
    intro request answer hmem
    have htier := router.mem_tiers transcript hmem
    rw [htiers] at htier
    exact List.not_mem_nil htier
  -- Both rules speak of questions only.
  refine ⟨htiers, ?_, ?_, hsettled⟩
  · intro before request answer after h
    exact absurd (h ▸ List.mem_append_right before List.mem_cons_self) (hnone request answer)
  · intro before request answer after h
    exact absurd (h ▸ List.mem_append_right before List.mem_cons_self) (hnone request answer)

/-- Two stretches (`Segment`) make one, unless the second asks something after a question to the
gate. -/
theorem Segment.append {first second : List Exchange} {word rest : List Tier}
    (hfirst : Segment router channel transcript word first)
    (hsecond : Segment router channel transcript rest second)
    (hgate : .cheap ∉ word ∨ rest = []) :
    Segment router channel transcript (word ++ rest) (first ++ second) := by
  refine ⟨?_, ?_, ?_, ?_⟩
  · rw [tiers_append, hfirst.tiers, hsecond.tiers, List.map_append]
  · intro before request answer after h htier
    rcases split_append h with ⟨tail, hbefore, rfl⟩ | ⟨tail, rfl, hafter⟩
    · rw [tiers_append, hfirst.gate before request answer tail hbefore htier, hsecond.tiers]
      -- The gate is asked in the first stretch, so the second asks nothing.
      rcases hgate with hword | rfl
      · have hmem := router.mem_tiers transcript
          (hbefore ▸ List.mem_append_right before List.mem_cons_self)
        rw [hfirst.tiers, htier] at hmem
        obtain ⟨tier, htier, heq⟩ := List.mem_map.1 hmem
        exact absurd (Option.some.inj heq ▸ htier) hword
      · exact List.append_nil _
    · exact hsecond.gate tail request answer after hafter htier
  · intro before request answer after h
    rcases split_append h with ⟨tail, hbefore, rfl⟩ | ⟨tail, rfl, hafter⟩
    · exact hfirst.typing before request answer tail hbefore
    · rw [Exchange.announcements_append hfirst.settled]
      exact hsecond.typing tail request answer after hafter
  · rw [Exchange.announcements_append hfirst.settled, hsecond.settled]

/-- A question to the gate makes a `Segment` with what follows upon its answer. -/
theorem Segment.cons_gate {rest : List Exchange} {word : List Tier}
    (answer : Option (Except ServiceFault Response))
    (hrest : Segment router channel transcript word rest)
    (hword : word = if affirms answer then [.expensive] else []) :
    Segment router channel transcript (.cheap :: word)
      ([⟨.complete ⟨router.settings.cheapModel, Prompt.gate transcript⟩, answer⟩] ++ rest) := by
  have hsettled : Exchange.announcements
      [⟨.complete ⟨router.settings.cheapModel, Prompt.gate transcript⟩, answer⟩] = [] := rfl
  have htiers : router.tiers transcript
      [⟨.complete ⟨router.settings.cheapModel, Prompt.gate transcript⟩, answer⟩] =
        [some .cheap] :=
    congrArg (fun tier => [tier]) (router.tier?_gate transcript)
  refine ⟨?_, ?_, ?_, ?_⟩
  · rw [tiers_append, htiers, hrest.tiers]
    rfl
  · intro before request answer' after h htier
    -- The question is the one to the gate, or it is among what follows.
    rcases split_append h with ⟨tail, hbefore, rfl⟩ | ⟨tail, rfl, hafter⟩
    · cases before with
      | nil =>
        cases hbefore
        rw [List.nil_append, hrest.tiers, hword]
        split <;> rfl
      | cons _ before => simp at hbefore
    · exact hrest.gate tail request answer' after hafter htier
  · intro before request answer' after h
    rcases split_append h with ⟨tail, hbefore, rfl⟩ | ⟨tail, rfl, hafter⟩
    · cases before with
      | nil =>
        cases hbefore
        rw [router.tier?_gate]
        exact ⟨fun hexpensive => (by cases hexpensive), fun _ => rfl⟩
      | cons _ before => simp at hbefore
    · rw [Exchange.announcements_append hsettled]
      exact hrest.typing tail request answer' after hafter
  · rw [Exchange.announcements_append hsettled, hrest.settled]

/-- A question to the expensive tier makes a stretch with the typing call before it. -/
theorem Segment.writing {prompt : String} (hprompt : prompt ∈ router.replyPrompts transcript)
    (typed : Option (Except TransportFault Unit))
    (answer : Option (Except ServiceFault Response)) :
    Segment router channel transcript [.expensive]
      [⟨.typing channel, typed⟩,
        ⟨.complete ⟨router.settings.expensiveModel, prompt⟩, answer⟩] := by
  have htier := router.tier?_reply hprompt
  -- The stretch has one question, at its end.
  have hsplit : ∀ before request answer' after,
      [⟨.typing channel, typed⟩,
        ⟨.complete ⟨router.settings.expensiveModel, prompt⟩, answer⟩] =
          before ++ (⟨.complete request, answer'⟩ : Exchange) :: after →
        before = [⟨.typing channel, typed⟩] ∧
          request = ⟨router.settings.expensiveModel, prompt⟩ := by
    intro before request answer' after h
    rcases before with _ | ⟨_, _ | ⟨_, before⟩⟩
    · cases h
    · cases h
      exact ⟨rfl, rfl⟩
    · simp at h
  refine ⟨congrArg (fun tier => [tier]) htier, ?_, ?_, rfl⟩
  · intro before request answer' after h hcheap
    obtain ⟨-, rfl⟩ := hsplit before request answer' after h
    rw [htier] at hcheap
    cases hcheap
  · intro before request answer' after h
    obtain ⟨rfl, rfl⟩ := hsplit before request answer' after h
    rw [htier]
    exact ⟨fun _ => rfl, fun hcheap => (by cases hcheap)⟩

/-! ## The parts of the handling as segments -/

@[simp] theorem external_asking (purpose : Price.Purpose) (model prompt messageId : String)
    (answer : Except ServiceFault Response) :
    Exchange.external (router.asking purpose model prompt messageId answer) =
      [⟨.complete ⟨model, prompt⟩, some answer⟩] := by
  cases answer <;> rfl

@[simp] theorem external_reports (notices : List Notice) :
    Exchange.external (notices.map fun notice => ⟨.report notice, some ()⟩) = [] := by
  rw [Exchange.external, List.filter_eq_nil_iff]
  intro e he
  obtain ⟨notice, -, rfl⟩ := List.mem_map.1 he
  simp [Call.isReport]

theorem Written.segment {message : Message} {manner : Manner} {trace : List Exchange}
    {result : Except Fault (Option String)} (h : router.Written message manner trace result)
    (hprompt : manner.prompt ∈ router.replyPrompts transcript) :
    Segment router message.channel transcript [.expensive] (Exchange.external trace) := by
  cases h with
  | failed typed fault => exact .writing hprompt _ _
  | withheld typed response hedit =>
    rw [Exchange.external_append, external_reports, List.append_nil]
    exact .writing hprompt _ _
  | sent typed response text hedit sent =>
    rw [Exchange.external_append]
    exact (Segment.writing hprompt _ _).append (.of_tiers_eq_nil rfl rfl) (.inr rfl)

theorem prompt_manner_mem (mode : Mode) (message : Message) :
    (router.manner mode message transcript).prompt ∈ router.replyPrompts transcript := by
  cases mode <;> simp [manner, forced, welcoming, unforced, replyPrompts]

theorem Commented.segment {message : Message} {trace : List Exchange}
    {result : Except Fault (Option String)} (h : router.Commented message transcript trace result) :
    ∃ word ∈ tierWords .passive,
      Segment router message.channel transcript word (Exchange.external trace) := by
  have hempty : Segment router message.channel transcript [] [] := .of_tiers_eq_nil rfl rfl
  cases h with
  | undecided fault =>
    refine ⟨[.cheap], by simp [tierWords], ?_⟩
    rw [external_asking]
    exact hempty.cons_gate _ rfl
  | declined response hverdict =>
    refine ⟨[.cheap], by simp [tierWords], ?_⟩
    rw [external_asking]
    exact hempty.cons_gate _ (by simp [affirms, hverdict])
  | affirmed response hverdict hwritten =>
    refine ⟨[.cheap, .expensive], by simp [tierWords], ?_⟩
    rw [Exchange.external_append, external_asking]
    have hrest := hwritten.segment (prompt_manner_mem .passive message)
    exact hrest.cons_gate _ (by simp [affirms, hverdict])

theorem Passed.segment {message : Message} {trace : List Exchange} {reply : Option String}
    (h : router.Passed message transcript trace reply) :
    ∃ word ∈ tierWords .passive,
      Segment router message.channel transcript word (Exchange.external trace) := by
  cases h with
  | settled hcomment => exact hcomment.segment
  | failed hcomment =>
    rw [Exchange.external_append]
    exact (List.append_nil (Exchange.external _)).symm ▸ hcomment.segment

theorem Answered.segment {message : Message} {mode : Mode} {trace : List Exchange}
    {reply : Option String} (h : router.Answered message transcript mode trace reply) :
    ∃ word ∈ tierWords mode,
      Segment router message.channel transcript word (Exchange.external trace) := by
  cases h with
  | passed hpassed => exact hpassed.segment
  | atOnce hmode hwritten =>
    have hfirst := hwritten.segment (prompt_manner_mem mode message)
    refine ⟨[.expensive], ?_, hfirst⟩
    cases mode <;> simp_all [tierWords]
  | fellBack hmode hwritten hpassed =>
    have hfirst := hwritten.segment (prompt_manner_mem mode message)
    -- The first answer asks the expensive tier only, so the gate's rule is left to the second.
    obtain ⟨word, hword, hsecond⟩ := hpassed.segment
    refine ⟨.expensive :: word, ?_, ?_⟩
    · cases mode <;> simp_all [tierWords]
    · rw [Exchange.external_append]
      exact hfirst.append hsecond (.inl (by simp))

theorem heard_of_not_isHistory (message : Message) {trace : List Exchange}
    (h : ∀ e ∈ trace, e.call.isHistory = false) :
    router.heard message trace =
      (Transcript.build router.settings.truncateLength router.settings.historyCount message
        []).render := by
  rw [heard]
  intro channel before limit messages tail htrace
  exact Bool.noConfusion (h _ (htrace ▸ List.mem_cons_self))

/-- The transcript is made of the history, or of nothing. -/
theorem Gathered.heard_eq {message : Message} {opening : List Exchange} {transcript : Transcript}
    (h : router.Gathered message opening transcript) {rest : List Exchange}
    (hrest : ∀ e ∈ rest, e.call.isHistory = false) :
    router.heard message (Exchange.external opening ++ rest) = transcript.render := by
  cases h with
  | alone hcount =>
    -- The rest does not begin with a history either.
    rw [Exchange.external_nil, List.nil_append, heard_of_not_isHistory _ hrest, hcount]
  | heard hcount messages => rfl
  | unheard hcount fault => rfl

/-- The history is all that is fetched for a transcript, and only if one is wanted. -/
theorem Gathered.external_eq {message : Message} {opening : List Exchange}
    {transcript : Transcript} (h : router.Gathered message opening transcript) :
    if router.settings.historyCount = 0 then Exchange.external opening = []
    else ∃ answer, Exchange.external opening =
      [⟨.history message.channel message.id router.settings.historyCount, answer⟩] := by
  cases h with
  | alone hcount =>
    rw [if_pos hcount]
    rfl
  | heard hcount messages =>
    rw [if_neg hcount]
    exact ⟨_, rfl⟩
  | unheard hcount fault =>
    rw [if_neg hcount]
    exact ⟨_, rfl⟩

theorem Gathered.segment {message : Message} {opening : List Exchange} {transcript : Transcript}
    (h : router.Gathered message opening transcript) (text : String) :
    Segment router channel text [] (Exchange.external opening) := by
  cases h <;> exact .of_tiers_eq_nil rfl rfl

/-- The commands see the message once, and only their answer is sent after that. -/
theorem Commanded.external_eq {message : Message} {closing : List Exchange}
    (h : Commanded message closing) :
    ∃ answer after,
      Exchange.external closing = ⟨.dispatch message, some answer⟩ :: after ∧
        (∀ e ∈ after, e.call.isHistory = false) ∧
        match answer with
        | none => after = []
        | some reply => ∃ result, after = [⟨.send message reply, some result⟩] := by
  cases h with
  | unanswered => exact ⟨none, [], rfl, by simp, rfl⟩
  | delivered reply =>
    exact ⟨some reply, [_], rfl, List.forall_mem_singleton.2 rfl, _, rfl⟩
  | refused reply fault =>
    exact ⟨some reply, [_], rfl, List.forall_mem_singleton.2 rfl, _, rfl⟩

theorem Commanded.segment {message : Message} {closing : List Exchange}
    (h : Commanded message closing) :
    Segment router channel transcript [] (Exchange.external closing) := by
  cases h <;> exact .of_tiers_eq_nil rfl rfl

/-- Fetching (`Gathered`), answering (`Answered`) and letting the commands see the message
(`Commanded`) make an orderly whole. -/
theorem orderly_of_parts {message : Message} {transcript : Transcript} {reply : Option String}
    {opening pipeline closing : List Exchange}
    (hopening : router.Gathered message opening transcript)
    (hpipeline : router.Answered message transcript.render (router.classify message) pipeline
      reply)
    (hunseen : ∀ e ∈ opening, e.call.isDispatch = false)
    (hinner : ∀ e ∈ pipeline, e.call.isInner = true)
    (hclosing : Commanded message closing) :
    router.Orderly message (Exchange.external opening ++
      (Exchange.external pipeline ++ Exchange.external closing)) := by
  obtain ⟨answer, after, hcommands, hafter, hanswer⟩ := hclosing.external_eq
  have hhistory : ∀ e ∈ Exchange.external pipeline ++ Exchange.external closing,
      e.call.isHistory = false := by
    intro e he
    rcases List.mem_append.1 he with he | he
    · exact Call.isHistory_of_isInner (hinner e (Exchange.mem_of_mem_external he))
    · rw [hcommands] at he
      rcases List.mem_cons.1 he with rfl | he
      · rfl
      · exact hafter e he
  -- Only the middle part asks anything.
  obtain ⟨word, hword, hsegment⟩ := hpipeline.segment
  have hclosed := hsegment.append hclosing.segment (.inr rfl)
  have hall := (hopening.segment transcript.render).append hclosed (.inl List.not_mem_nil)
  rw [List.nil_append, List.append_nil] at hall
  -- The transcript can be told from the exchanges.
  have hheard := hopening.heard_eq hhistory
  refine ⟨?_, ⟨word, hword, ?_⟩, ?_, ?_, ?_⟩
  · have hfirst := hopening.external_eq
    split at hfirst
    · rename_i hcount
      rw [if_pos hcount, hfirst]
      exact hhistory
    · rename_i hcount
      obtain ⟨answer, hfirst⟩ := hfirst
      rw [if_neg hcount, hfirst]
      exact ⟨answer, _, rfl, hhistory⟩
  · rw [hheard]
    exact hall.tiers
  · rw [hheard]
    exact hall.gate
  · rw [hheard]
    exact hall.typing
  · refine ⟨Exchange.external opening ++ Exchange.external pipeline, answer, after, ?_, ?_,
      hanswer⟩
    · rw [hcommands, List.append_assoc]
    · intro e he
      rcases List.mem_append.1 he with he | he
      · exact hunseen e (Exchange.mem_of_mem_external he)
      · exact Call.isDispatch_of_isInner (hinner e (Exchange.mem_of_mem_external he))

/-- A message by a bot leads to no call of `handle` at all. Any other is handled in order
(`Orderly`): the history comes first if one is wanted, the tiers are asked as its mode allows, the
expensive one after the cheap one exactly upon a yes and each time right after a single typing call,
and the commands see the message once, with nothing after it but their own answer. -/
theorem handle_orderly {σ : Type} (router : Router) (message : Message) (partner : Partner σ)
    (s : σ)
    (hanswered : ∀ e ∈ (router.handle message).exchanges partner s, e.answer.isSome) :
    if message.fromBot then (router.handle message).exchanges partner s = []
    else router.Orderly message
      (Exchange.external ((router.handle message).exchanges partner s)) := by
  cases hbot : message.fromBot with
  | true =>
    rw [if_pos rfl, handle_of_fromBot router hbot, Dialogue.exchanges_done]
  | false =>
    rw [if_neg Bool.false_ne_true]
    obtain ⟨result, -, hcourse⟩ := Dialogue.exists_course_of_answered hanswered
    -- The rules hold of the three parts of the handling, and the reports do not count.
    obtain ⟨opening, transcript, pipeline, reply, closing, htrace, hopening, hpipeline, hunseen,
      hinner, hclosing, -⟩ := router.course_handle hbot hcourse
    have hexternal : Exchange.external ((router.handle message).exchanges partner s) =
        Exchange.external opening ++
          (Exchange.external pipeline ++ Exchange.external closing) := by
      rw [htrace, ← Exchange.external_append, ← Exchange.external_append, List.append_assoc]
      rfl
    rw [hexternal]
    exact orderly_of_parts hopening hpipeline hunseen hinner hclosing

section Scene

open Rehearsal

theorem handle_orderly_after_lost_reply :
    (∀ e ∈ (bot.handle claim).exchanges partner scene, e.answer.isSome) ∧
    bot.Orderly claim (Exchange.external ((bot.handle claim).exchanges partner scene)) := by
  have hanswered : ∀ e ∈ (bot.handle claim).exchanges partner scene, e.answer.isSome := by
    decide +kernel
  have horderly := handle_orderly bot claim partner scene hanswered
  rw [if_neg (by decide)] at horderly
  exact ⟨hanswered, horderly⟩

end Scene

end Router

end Gadfly
