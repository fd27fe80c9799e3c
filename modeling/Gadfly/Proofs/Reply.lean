/-
  Gadfly.Proofs.Reply

  What is sent can be seen.

  Answers come from four sources (`Router.Sourced`): a forced critique without the sentinel, an
  answer to a greeting with something to fall back upon, a critique that was not withheld, and the
  commands. The first three are `Tidy`: without blanks at the ends and not empty. All four begin
  with a character that is not blank, so that something is left of an answer also when it is cut
  to the length of a message (`Discord.clip`).

  What is posted to the chat platform is told by a network that keeps the requests
  (`Http.Network.recording`): the bodies among them are those of the answers sent, in order.

  Main definitions: `Tidy`, `Exchange.sent`, `Router.Sourced`, `Discord.posting?`,
  `Discord.Carries`.
  Main statements: `Router.tidy_of_edit`, `Router.sourced_handle`, `Router.tidy_of_pipeline`,
  `Router.visible_of_sent`, `Discord.carries_of_visible`, `Discord.bodies_handle`,
  `Router.replies_can_be_seen`.
-/

import Gadfly.Discord.Rest
import Gadfly.Proofs.Blank
import Gadfly.Proofs.Network
import Gadfly.Proofs.Outcome

namespace Gadfly

open Dialogue Text

/-! ## Tidy texts -/

/-- Without blanks at the ends, and not empty. -/
structure Tidy (text : String) : Prop where
  trimmed_eq : text.trimmed = text
  ne_empty : text ≠ ""

theorem tidy_ofList_trim {cs : List Char} (h : String.ofList (trim cs) ≠ "") :
    Tidy (String.ofList (trim cs)) := by
  refine ⟨?_, h⟩
  rw [String.trimmed, String.toList_ofList, trim_trim]

theorem Tidy.visible {text : String} (h : Tidy text) : Visible text.toList := by
  have htrim : trim text.toList = text.toList := by
    have hlist := congrArg String.toList h.trimmed_eq
    rwa [String.trimmed, String.toList_ofList] at hlist
  rw [← htrim]
  refine visible_trim fun hnil => h.ne_empty ?_
  rw [htrim] at hnil
  exact String.toList_eq_nil_iff.1 hnil

namespace Router

variable (router : Router) {message : Message} {transcript text : String}

/-- Whatever a model writes, what is sent of it (`edit`) is `Tidy`. -/
theorem tidy_of_edit {mode : Mode} {response : Response}
    (h : (router.manner mode message transcript).edit response.normal.text = some text) :
    Tidy text := by
  cases mode with
  | direct =>
    simp only [manner, forced] at h
    split at h
    · cases h
    · obtain rfl := Option.some.inj h
      exact tidy_ofList_trim ‹_›
  | greeting =>
    -- The model's text is trimmed already; only when nothing is left of it there is another.
    obtain rfl := Option.some.inj h
    by_cases hempty : response.normal.text = ""
    · rw [if_pos hempty]
      exact ⟨by decide +kernel, by decide +kernel⟩
    · rw [if_neg hempty]
      exact tidy_ofList_trim hempty
  | passive =>
    simp only [manner, unforced] at h
    split at h
    · cases h
    · rename_i hsuppressed
      obtain rfl := Option.some.inj h
      refine tidy_ofList_trim fun hempty => hsuppressed ?_
      rw [isSuppressed, Bool.or_eq_true, beq_iff_eq]
      exact .inl hempty

end Router

/-! ## Where answers come from -/

namespace Exchange

/-- The texts that were sent. -/
def sent (trace : List Exchange) : List String :=
  trace.filterMap fun e => e.call.sent?

theorem mem_sent_iff {trace : List Exchange} {text : String} :
    text ∈ sent trace ↔ ∃ e ∈ trace, e.call.sent? = some text :=
  List.mem_filterMap

/-- An exchange of the pipeline comes before the commands have seen a message. -/
theorem exists_of_mem_pipeline {trace : List Exchange} {e : Exchange} (h : e ∈ pipeline trace) :
    ∃ first rest, trace = first ++ e :: rest ∧ ∀ other ∈ first, other.call.isDispatch = false := by
  obtain ⟨first, rest, hpipeline⟩ := List.append_of_mem h
  obtain ⟨later, htrace⟩ := List.takeWhile_prefix (l := trace) fun e => !e.call.isDispatch
  refine ⟨first, rest ++ later, ?_, fun other hother => ?_⟩
  · rw [← htrace, ← pipeline, hpipeline, List.append_assoc, List.cons_append]
  · have hmem : other ∈ pipeline trace := hpipeline ▸ List.mem_append_left _ hother
    simpa using List.mem_takeWhile_imp hmem

end Exchange

namespace Router

variable (router : Router) {message : Message} {transcript text : String}

/-- The text that a call sends, if it sends one, is `Tidy`, or the commands have just said it. -/
def Sourced (message : Message) (before : List Exchange) (call : Call) : Prop :=
  ∀ text, call.sent? = some text →
    Tidy text ∨ ⟨.dispatch message, some (some text)⟩ ∈ before

theorem sourced_of_unsent (before : List Exchange) (call : Call) (h : call.sent? = none) :
    Sourced message before call :=
  Call.forall_sent?_of_none h

/-- What the pipeline sends is tidy. -/
theorem only_answer_tidy (mode : Mode) (message : Message) (transcript : String) :
    (router.answer mode message transcript).Only fun call =>
      ∀ text, call.sent? = some text → Tidy text := by
  have hreport (notice : Notice) : ∀ text, (Call.report notice).sent? = some text → Tidy text :=
    Call.forall_sent?_of_none rfl
  refine router.only_answer_of_write ?_ (fun mode => ?_) hreport
  · exact router.only_gate (Call.forall_sent?_of_none rfl) hreport
  · refine (router.warranted_write message _ []).only fun before call hedited text htext => ?_
    obtain ⟨response, -, hedit⟩ := hedited text htext
    exact router.tidy_of_edit hedit

/-- What the commands say is sent as they say it. -/
theorem sourced_command (message : Message) (before : List Exchange) :
    (command message).Warranted (Sourced message) before := by
  refine (warranted_call (sourced_of_unsent _ _ rfl)).bind fun trace answer htrace => ?_
  obtain rfl := course_call_iff.1 htrace
  cases answer with
  | none => trivial
  | some reply =>
    have hsend : Sourced message (before ++ [⟨.dispatch message, some (some reply)⟩])
        (.send message reply) := by
      rintro _ ⟨⟩
      exact .inr (List.mem_append_right _ (List.mem_singleton_self _))
    refine (warranted_call hsend).bind fun _ sent _ => ?_
    cases sent with
    | ok _ => trivial
    | error fault => exact warranted_call (sourced_of_unsent _ _ rfl)

theorem sourced_handle (message : Message) :
    (router.handle message).Warranted (Sourced message) [] := by
  cases hbot : message.fromBot with
  | true =>
    rw [handle_of_fromBot router hbot]
    trivial
  | false =>
    have hopening : (router.opening message).Only fun call => call.sent? = none :=
      router.only_opening rfl fun _ => rfl
    rw [router.handle_eq hbot]
    refine (warranted_of_only sourced_of_unsent hopening).bind fun _ transcript _ => ?_
    refine Warranted.bind ?_ fun _ reply _ => ?_
    · refine warranted_of_only ?_ (router.only_answer_tidy _ message transcript)
      exact fun before call htidy text htext => .inl (htidy text htext)
    · exact (sourced_command message _).bind fun _ _ _ => trivial

variable {σ : Type} {partner : Partner σ} {s : σ}

/-- Before the commands see a message (`pipeline`), all that is sent is `Tidy`. -/
theorem tidy_of_pipeline
    (h : text ∈ Exchange.sent (Exchange.pipeline ((router.handle message).exchanges partner s))) :
    Tidy text := by
  obtain ⟨e, he, htext⟩ := Exchange.mem_sent_iff.1 h
  obtain ⟨first, rest, htrace, hunseen⟩ := Exchange.exists_of_mem_pipeline he
  have hcourse := course_exchanges partner (router.handle message) s
  obtain htidy | hmem := hcourse.warrant_of_eq (router.sourced_handle message) htrace text htext
  · exact htidy
  · -- The commands have said nothing yet.
    cases hunseen _ hmem

end Router

/-! ## What the commands say -/

namespace Stage

variable {τ σ : Type} (transport : Transport τ) (service : Service σ)

theorem commands_partner (stage : Stage τ σ) (call : Call) :
    (partner transport service stage call).2.commands = stage.commands := by
  cases call <;> rfl

/-- On a stage the commands are asked what they say to a message. -/
theorem dispatched_of_mem_exchanges {α : Type} (d : Dialogue α) (stage : Stage τ σ)
    {message : Message} {answer : Option String}
    (h : ⟨.dispatch message, some answer⟩ ∈ d.exchanges (partner transport service) stage) :
    answer = stage.commands.reply? message := by
  let Q : Exchange → Prop := fun e =>
    ∀ message answer, e = ⟨.dispatch message, some answer⟩ →
      answer = stage.commands.reply? message
  have hall := forall_exchanges_of_invariant (p := partner transport service)
    (I := fun s => s.commands = stage.commands) (Q := Q) ?_ d rfl
  · exact hall _ h message answer rfl
  · intro s call hs
    refine ⟨(commands_partner transport service s call).trans hs, ?_⟩
    rintro message answer hexchange
    cases call with
    | dispatch message' =>
      cases hexchange
      exact congrArg (Commands.reply? · message) hs
    | _ => cases hexchange

end Stage

theorem Commands.visible_of_reply? {commands : Commands} {message : Message} {reply : String}
    (h : commands.reply? message = some reply) : Visible reply.toList := by
  obtain ⟨⟨mark, table⟩, -, hreply⟩ := Option.bind_eq_some_iff.1 h
  exact Command.visible_of_reply? hreply

/-- Whatever the settings, the message, the model and the commands, all that is sent begins with
a character that is not blank. -/
theorem Router.visible_of_sent {τ σ : Type} (router : Router) {message : Message}
    {transport : Transport τ} {service : Service σ} {stage : Stage τ σ} {text : String}
    (h : text ∈ Exchange.sent
      ((router.handle message).exchanges (Stage.partner transport service) stage)) :
    Visible text.toList := by
  obtain ⟨e, he, htext⟩ := Exchange.mem_sent_iff.1 h
  obtain ⟨first, rest, htrace⟩ := List.append_of_mem he
  have hcourse := course_exchanges (Stage.partner transport service) (router.handle message) stage
  obtain htidy | hmem := hcourse.warrant_of_eq (router.sourced_handle message) htrace text htext
  · exact htidy.visible
  · have hsaid : ⟨.dispatch message, some (some text)⟩ ∈
        (router.handle message).exchanges (Stage.partner transport service) stage := by
      rw [htrace]
      exact List.mem_append_left _ hmem
    have hreply := Stage.dispatched_of_mem_exchanges transport service _ stage hsaid
    exact Commands.visible_of_reply? hreply.symm

/-! ## What is posted -/

namespace Http

variable {σ : Type}

/-- What was sent along with requests. -/
def bodies (requests : List Request) : List Json :=
  requests.filterMap Request.body

/-- What is sent along with a request, if it can be put together. -/
def draftedBody? (drafted : Except Failure Request) : Option Json :=
  drafted.toOption.bind Request.body

/-- A request is put together with the body given for it. -/
theorem draftedBody?_draft (method : Method) (address : String)
    (parameters : List (String × String)) (authorization : String) (body : Option Json) :
    draftedBody? (draft method address parameters authorization body) = none ∨
      draftedBody? (draft method address parameters authorization body) = body := by
  rw [draft]
  split
  · exact .inl rfl
  · dsimp only
    split_ifs <;> first | exact .inl rfl | exact .inr rfl

theorem draftedBody?_draft_none (method : Method) (address : String)
    (parameters : List (String × String)) (authorization : String) :
    draftedBody? (draft method address parameters authorization none) = none :=
  or_self_iff.1 (draftedBody?_draft method address parameters authorization none)

theorem bodies_send (network : Network σ) (s : List Request × σ)
    (drafted : Except Failure Request) :
    bodies (send network.recording s drafted).2.1 =
      bodies s.1 ++ (draftedBody? drafted).toList := by
  cases drafted with
  | error failure => exact (List.append_nil _).symm
  | ok request =>
    have hmade : (send network.recording s (.ok request)).2.1 = s.1 ++ [request] := rfl
    rw [hmade, bodies, bodies, List.filterMap_append,
      List.filterMap_eq_flatMap_toList Request.body [request], List.flatMap_singleton]
    rfl

theorem bodies_send_of_none (network : Network σ) (s : List Request × σ)
    {drafted : Except Failure Request} (h : draftedBody? drafted = none) :
    bodies (send network.recording s drafted).2.1 = bodies s.1 := by
  rw [bodies_send, h, Option.toList_none, List.append_nil]

end Http

namespace Discord

variable {τ σ : Type}

/-- What is posted for an answer to a message, if the request for it can be put together. -/
def posting? (account : Account) (message : Message) (text : String) : Option Json :=
  Http.draftedBody? (draft account (.reply message.channel message.id text))

/-- What a call posts. -/
def posted? (account : Account) : Call → Option Json
  | .send message text => posting? account message text
  | _ => none

theorem posting?_eq_some {account : Account} {message : Message} {text : String} {body : Json}
    (h : posting? account message text = some body) : body = replyBody message.id text := by
  obtain hnone | hbody := Http.draftedBody?_draft .post
    (account.address ("/channels/" ++ message.channel ++ "/messages")) [] account.authorization
      (some (replyBody message.id text))
  · cases h.symm.trans hnone
  · exact Option.some.inj (h.symm.trans hbody)

variable (network : Http.Network τ) (account : Account) (s : List Http.Request × τ)

theorem bodies_reply (message : Message) (text : String) :
    Http.bodies (reply network.recording account s message text).2.1 =
      Http.bodies s.1 ++ (posting? account message text).toList := by
  rw [posting?, reply, ask]
  -- The request is left closed: whether it can be put together makes no difference here.
  generalize draft account (.reply message.channel message.id text) = drafted
  exact Http.bodies_send network s drafted

theorem bodies_typing (channel : String) :
    Http.bodies (typing network.recording account s channel).2.1 = Http.bodies s.1 := by
  have hnone : Http.draftedBody? (draft account (.typing channel)) = none := by
    rw [draft, Http.draftedBody?_draft_none]
  rw [typing, ask]
  generalize draft account (.typing channel) = drafted at hnone
  exact Http.bodies_send_of_none network s hnone

theorem bodies_history (channel before : String) (limit : Nat) :
    Http.bodies (history network.recording account s channel before limit).2.1 =
      Http.bodies s.1 := by
  have hnone : Http.draftedBody? (draft account (.history channel before limit)) = none := by
    rw [draft, Http.draftedBody?_draft_none]
  rw [history]
  split_ifs
  · rfl
  · rw [ask]
    generalize draft account (.history channel before limit) = drafted at hnone
    exact Http.bodies_send_of_none network s hnone

/-- Nothing is posted but answers. -/
theorem bodies_partner (selfId : String) (service : Service σ)
    (stage : Stage (List Http.Request × τ) σ) (call : Call) :
    Http.bodies
        (Stage.partner (transport network.recording account selfId) service stage
          call).2.transport.1 =
      Http.bodies stage.transport.1 ++ (posted? account call).toList := by
  have hsend : (transport network.recording account selfId).send =
      reply network.recording account := rfl
  have htyping : (transport network.recording account selfId).typing =
      typing network.recording account := rfl
  have hhistory : (transport network.recording account selfId).history =
      history network.recording account := rfl
  -- From here on any transport with these three functions will do.
  generalize transport network.recording account selfId = transport at hsend htyping hhistory
  cases call with
  | send message text =>
    have hafter : (Stage.partner transport service stage (.send message text)).2.transport =
        (transport.send stage.transport message text).2 := rfl
    rw [hafter, hsend]
    exact bodies_reply network account stage.transport message text
  | typing channel =>
    have hafter : (Stage.partner transport service stage (.typing channel)).2.transport =
        (transport.typing stage.transport channel).2 := rfl
    rw [hafter, htyping, bodies_typing]
    exact (List.append_nil _).symm
  | history channel before limit =>
    have hafter :
        (Stage.partner transport service stage (.history channel before limit)).2.transport =
          (transport.history stage.transport channel before limit).2 := rfl
    rw [hafter, hhistory, bodies_history]
    exact (List.append_nil _).symm
  | _ => exact (List.append_nil _).symm

/-- What is posted for a text: something that can be seen and is not too long, which is the text
itself, or as much of its beginning as fits. -/
structure Carries (body : Json) (text content : String) : Prop where
  content_eq : body.member "content" = .string content
  length_pos : 1 ≤ content.length
  length_le : content.length ≤ 2000
  seen : ∃ c ∈ content.toList, isBlank c = false
  whole : text.length ≤ 2000 → content = text
  cut : 2000 < text.length → content.toList = text.toList.take 2000

theorem carries_of_visible (messageId : String) {text : String} (h : Visible text.toList) :
    Carries (replyBody messageId text) text (clip text) := by
  have hlist : (clip text).toList = text.toList.take 2000 := String.toList_ofList
  -- The first character is not blank, and it is among those that are kept.
  have hvisible : Visible (clip text).toList := hlist ▸ h.take (by decide)
  refine ⟨rfl, ?_, ?_, hvisible.exists_mem, fun hshort => ?_, fun _ => hlist⟩
  · obtain ⟨c, rest, hclip, -⟩ := hvisible
    rw [← String.length_toList, hclip]
    exact Nat.succ_pos _
  · rw [← String.length_toList, hlist]
    exact List.length_take_le _ _
  · rw [← String.length_toList] at hshort
    rw [clip, maxContent, List.take_of_length_le hshort, String.ofList_toList]

/-- While a message is handled, the bodies posted are those of the answers sent, in order
(`posting?`). -/
theorem bodies_handle (router : Router) (message : Message) (selfId : String)
    (service : Service σ) (stage : Stage (List Http.Request × τ) σ) :
    let partner := Stage.partner (transport network.recording account selfId) service
    Http.bodies ((router.handle message).run partner stage).2.transport.1 =
      Http.bodies stage.transport.1 ++
        (Exchange.sent ((router.handle message).exchanges partner stage)).filterMap
          (posting? account message) := by
  intro partner
  have hpartner : ∀ stage call, Http.bodies (partner stage call).2.transport.1 =
      Http.bodies stage.transport.1 ++ (posted? account call).toList :=
    bodies_partner network account selfId service
  clear_value partner
  have hadds := run_adds (f := fun stage => Http.bodies stage.transport.1) hpartner
    (router.handle message) stage
  -- All answers are to the message that is handled.
  have honly : (router.handle message).Only fun call =>
      posted? account call = call.sent?.bind (posting? account message) := by
    refine router.only_handle rfl rfl (fun _ => rfl) (fun text => ?_) rfl fun _ => rfl
    rw [posted?, Call.sent?, Option.bind_some]
  rw [hadds, Exchange.sent, List.filterMap_filterMap]
  exact congrArg _ (List.filterMap_congr (forall_exchanges_of_only honly partner stage))

end Discord

/-- Whatever the settings, the message, the model, the commands and the transport, each answer that
is sent shows something (`Visible`), and those of the pipeline have no blanks at their ends. On the
chat platform, what is posted are the answers sent, in order, and each with a content that shows
something and is not too long: the answer itself, or as much of its beginning as fits
(`Discord.clip`). -/
theorem Router.replies_can_be_seen (router : Router) (message : Message) {σ : Type}
    (service : Service σ) :
    (∀ {τ : Type} (transport : Transport τ) (stage : Stage τ σ),
      let trace := (router.handle message).exchanges (Stage.partner transport service) stage
      (∀ text ∈ Exchange.sent trace, ∃ c ∈ text.toList, isBlank c = false) ∧
        ∀ text ∈ Exchange.sent (Exchange.pipeline trace), text.trimmed = text) ∧
    ∀ {τ : Type} (network : Http.Network τ) (account : Discord.Account) (selfId : String)
      (stage : Stage (List Http.Request × τ) σ),
      let partner := Stage.partner (Discord.transport network.recording account selfId) service
      let texts := Exchange.sent ((router.handle message).exchanges partner stage)
      Http.bodies ((router.handle message).run partner stage).2.transport.1 =
          Http.bodies stage.transport.1 ++ texts.filterMap (Discord.posting? account message) ∧
        ∀ text ∈ texts, ∀ body, Discord.posting? account message text = some body →
          ∃ content, Discord.Carries body text content := by
  refine ⟨fun transport stage => ⟨fun text htext => ?_, fun text htext => ?_⟩,
    fun network account selfId stage => ⟨?_, fun text htext body hbody => ?_⟩⟩
  · exact (router.visible_of_sent htext).exists_mem
  · exact (router.tidy_of_pipeline htext).trimmed_eq
  · exact Discord.bodies_handle network account router message selfId service stage
  · rw [Discord.posting?_eq_some hbody]
    exact ⟨_, Discord.carries_of_visible message.id (router.visible_of_sent htext)⟩

section Scene

open Rehearsal

/-- Somebody addresses the bot with a command. -/
def order : Message := { claim with content := "!PING" }

/-- An account with a platform on this machine. -/
def localAccount : Discord.Account :=
  { Discord.Account.standard "token" with base := "http://[::1]" }

/-- A platform that is out of order: no answer is delivered. -/
def brokenPlatform : Http.Network Unit := fun s _ => (.ok ⟨503, ""⟩, s)

/-- Blanks around what the model writes, and commands that have something to say as well. -/
def crowdedStage : Stage (List Http.Request × Unit) (List Turn) :=
  .fresh ([], ())
    [.answer (.ok (.ofText " It does not. ")), .answer (.ok (.ofText "yes")),
      .answer (.ok (.ofText "It still does not.\n"))]
    (some ("!", .builtIn))

theorem replies_can_be_seen_on_crowded_stage :
    let partner :=
      Stage.partner (Discord.transport brokenPlatform.recording localAccount "bot-1") service
    let trace := (bot.handle order).exchanges partner crowdedStage
    Exchange.sent trace = ["It does not.", "It still does not.", "pong"] ∧
      Exchange.sent (Exchange.pipeline trace) = ["It does not.", "It still does not."] ∧
      (∀ text ∈ Exchange.sent trace, ∃ c ∈ text.toList, isBlank c = false) ∧
      (∀ text ∈ Exchange.sent (Exchange.pipeline trace), text.trimmed = text) ∧
      Http.bodies ((bot.handle order).run partner crowdedStage).2.transport.1 =
        ["It does not.", "It still does not.", "pong"].map (Discord.replyBody "7") ∧
      ∃ content, Discord.Carries (Discord.replyBody "7" "pong") "pong" content := by
  intro partner trace
  have hsent : Exchange.sent trace = ["It does not.", "It still does not.", "pong"] := by
    decide +kernel
  have hposted : ∀ text ∈ ["It does not.", "It still does not.", "pong"],
      Discord.posting? localAccount order text = some (Discord.replyBody "7" text) := by
    intro text htext
    -- The address leads to a host by number, so that it can be read by evaluation.
    have hsome : (Discord.posting? localAccount order text).isSome = true := by
      revert text
      decide +kernel
    obtain ⟨body, hbody⟩ := Option.isSome_iff_exists.1 hsome
    rw [hbody, Discord.posting?_eq_some hbody]
    rfl
  obtain ⟨hseen, htrimmed⟩ := (bot.replies_can_be_seen order service).1
    (Discord.transport brokenPlatform.recording localAccount "bot-1") crowdedStage
  obtain ⟨hbodies, hcarries⟩ := (bot.replies_can_be_seen order service).2 brokenPlatform
    localAccount "bot-1" crowdedStage
  have hnone : Http.bodies crowdedStage.transport.1 = [] := rfl
  refine ⟨hsent, by decide +kernel, hseen, htrimmed, ?_, ?_⟩
  · rw [hbodies, hnone, List.nil_append, hsent, List.filterMap_congr hposted,
      List.filterMap_eq_map']
  · exact hcarries "pong" (by rw [hsent]; decide) _ (hposted "pong" (by decide))

end Scene

end Gadfly
