/-
  Gadfly.Proofs.Errand

  One call, one response.

  An `Errand` is whatever the bot wants of the chat platform. It makes one request
  (`Account.request?`), or none when nothing is wanted or the request cannot be put together, and
  it makes up its mind from the one response to it. So of a script, errands that are run one after
  the other (`runErrands`) use up as many replies as they make requests, in order
  (`Server.after`), and what each of them comes to is a function of the errand and of the reply
  that it met (`Account.meet`). How a reply is `Understood` is said once for the queries that go
  to a channel (`understood_interpret`), and `Fails` lists the ways in which it is a failure.

  Main definitions: `Account.request?`, `Account.meet`, `Http.Server.after`, `Fails`,
  `Understood`.
  Main statements: `runErrands_requests`, `runErrands_server`, `understood_interpret`,
  `Discord.each_errand_meets_one_reply`.
-/

import Gadfly.Proofs.Digits
import Gadfly.Proofs.Location
import Gadfly.Proofs.Post
import Gadfly.Proofs.Secret

namespace Gadfly

/-! ## Scripts that are used up -/

namespace Http

variable {server : Server} {request : Request}

/-- The status of a reply. -/
def Reply.status? : Reply → Option Nat
  | .answer given => some given.status
  | .silence | .hangUp => none

theorem Reply.status?_ne {given : Answer} {status : Nat} (h : given.status ≠ status) :
    (Reply.answer given).status? ≠ some status :=
  fun hsome => h (Option.some.inj hsome)

/-- The wait for a response ends with any status that could be a response. -/
theorem isFinal_of_status {given : Answer} (hlow : 200 ≤ given.status)
    (hhigh : given.status ≤ 999) : given.isFinal = true := by
  rw [Answer.isFinal, decide_eq_true hlow, decide_eq_true hhigh]
  exact Bool.or_true _

namespace Server

/-- What a script says to the request that comes after so many others. -/
def reply (server : Server) (count : Nat) : Reply :=
  server.replies.getD count (.answer exhausted)

/-- A server that has taken more requests, and has used up a reply of its script for each. -/
def after (server : Server) (requests : List Request) : Server :=
  { server with
    replies := server.replies.drop requests.length
    received := server.received ++ requests }

@[simp] theorem after_nil (server : Server) : server.after [] = server := by
  simp [after]

@[simp] theorem after_after (server : Server) (first second : List Request) :
    (server.after first).after second = server.after (first ++ second) := by
  simp [after]

@[simp] theorem reply_after (server : Server) (requests : List Request) (count : Nat) :
    (server.after requests).reply count = server.reply (requests.length + count) := by
  simp [after, reply]

theorem take_of_serves (h : server.serves request.url = true) :
    server.take request = ((server.reply 0).result request.url, server.after [request]) := by
  rw [take, if_pos h, reply, after]
  cases server.replies with
  | nil => rfl
  | cons reply rest => rfl

end Server

end Http

namespace Discord

open Http

/-! ## Errands and their requests -/

namespace Account

variable (account : Account)

/-- The request of an errand (`drafted`), unless there is none or it cannot be put together. -/
def request? (errand : Errand) : Option Http.Request :=
  (account.drafted errand).toOption

/-- What an errand comes to when its request, if there is one, meets a reply. -/
def meet (errand : Errand) (reply : Http.Reply) : errand.Result :=
  errand.outcome ((account.drafted errand).bind fun request => reply.result request.url)

variable {account}

theorem LeadsTo.after {server : Server} (h : account.LeadsTo server)
    (requests : List Http.Request) : account.LeadsTo (server.after requests) :=
  h

theorem LeadsTo.serves_drafted {server : Server} (h : account.LeadsTo server) {errand : Errand}
    {request : Http.Request} (hdrafted : account.drafted errand = .ok request) :
    server.serves request.url = true := by
  obtain ⟨query, hdraft⟩ := exists_query_of_drafted account hdrafted
  exact h.serves hdraft

end Account

variable {σ : Type} {network : Network σ} {account : Account}

/-- An errand makes its request, once. -/
theorem runErrand_requests (errand : Errand) (noted : List Http.Request) (s : σ) :
    (runErrand network.recording account (noted, s) errand).2.1 =
      noted ++ (account.request? errand).toList := by
  rw [runErrand_eq, Account.request?]
  cases account.drafted errand with
  | error failure => exact (List.append_nil noted).symm
  | ok request => rfl

theorem filterMap_request?_cons (errand : Errand) (rest : List Errand) :
    (errand :: rest).filterMap account.request? =
      (account.request? errand).toList ++ rest.filterMap account.request? := by
  rw [List.filterMap_eq_flatMap_toList, List.filterMap_eq_flatMap_toList, List.flatMap_cons]

/-- So do several errands in order, whoever answers them: the requests are the `request?`s of the
errands. -/
theorem runErrands_requests (errands : List Errand) (noted : List Http.Request) (s : σ) :
    (runErrands network.recording account (noted, s) errands).2.1 =
      noted ++ errands.filterMap account.request? := by
  induction errands generalizing noted s with
  | nil => exact (List.append_nil noted).symm
  | cons errand rest ih =>
    have hfirst : (runErrand network.recording account (noted, s) errand).2.1 =
        noted ++ (account.request? errand).toList := runErrand_requests errand noted s
    rw [runErrands, inTurn_cons]
    generalize (runErrand network.recording account (noted, s) errand).2 = state at hfirst
    obtain ⟨requests, t⟩ := state
    obtain rfl : requests = noted ++ (account.request? errand).toList := hfirst
    have hrest := ih (noted ++ (account.request? errand).toList) t
    rw [List.append_assoc, ← filterMap_request?_cons] at hrest
    exact hrest

/-- An errand that goes to a server with a script uses up a reply if it makes a request. -/
theorem runErrand_server {server : Server} (h : account.LeadsTo server) (errand : Errand) :
    runErrand serverNetwork account server errand =
      (account.meet errand (server.reply 0),
        server.after (account.request? errand).toList) := by
  rw [runErrand_eq, Account.meet, Account.request?]
  cases hdrafted : account.drafted errand with
  | error failure => exact congrArg _ server.after_nil.symm
  | ok request =>
    rw [send, serverNetwork, Server.take_of_serves (h.serves_drafted hdrafted)]
    rfl

/-- Of several errands each meets (`meet`) the reply that is next in the script. -/
theorem runErrands_server {server : Server} (h : account.LeadsTo server) (errands : List Errand) :
    (runErrands serverNetwork account server errands).2 =
        server.after (errands.filterMap account.request?) ∧
      ∀ k : Nat, (runErrands serverNetwork account server errands).1[k]? =
        errands[k]?.map fun errand => (⟨errand, account.meet errand
          (server.reply ((errands.take k).filterMap account.request?).length)⟩ :
            (errand : Errand) × errand.Result) := by
  -- Errand by errand: the script is shorter by a reply if the first of them makes a request.
  induction errands generalizing server with
  | nil => exact ⟨server.after_nil.symm, fun k => rfl⟩
  | cons errand rest ih =>
    obtain ⟨hstate, hresults⟩ := ih (h.after (account.request? errand).toList)
    rw [runErrands] at hstate hresults
    rw [runErrands, inTurn_cons, runErrand_server h]
    constructor
    · rw [hstate, Server.after_after, filterMap_request?_cons]
    · intro k
      cases k with
      | zero => rfl
      | succ k =>
        rw [List.getElem?_cons_succ, hresults, List.getElem?_cons_succ, List.take_succ_cons,
          filterMap_request?_cons, List.length_append]
        simp only [Server.reply_after]

/-! ## How a reply is understood -/

/-- How a call for a channel fails: two statuses have meanings of their own, and whatever else it
is counts as a failure of the call. -/
inductive Fails (channel : String) (otherwise : String → TransportFault) :
    Http.Reply → TransportFault → Prop
  | limited {given : Answer} (h : given.status = 429) :
      Fails channel otherwise (.answer given) (.rateLimited channel (retryAfter given.text))
  | refused {given : Answer} (h : given.status = 401) :
      Fails channel otherwise (.answer given) (.unauthorized "Discord rejected the bot token")
  | other {reply : Http.Reply} (hlimited : reply.status? ≠ some 429)
      (hrefused : reply.status? ≠ some 401) (reason : String) :
      Fails channel otherwise reply (otherwise reason)

variable {query : Query} {given : Answer} {reply : Http.Reply} {url : Url} {fault : TransportFault}

theorem status_of_isGood (h : isGood query given = true) :
    200 ≤ given.status ∧ given.status < 300 := by
  cases query <;> simp only [isGood, Answer.isSuccess, beq_iff_eq, Bool.and_eq_true,
    decide_eq_true_eq] at h <;> omega

/-- A reply comes to an answer only if it is one, and a final one. -/
theorem result_eq_ok_iff :
    reply.result url = .ok given ↔ reply = .answer given ∧ given.isFinal = true := by
  cases reply with
  | answer other =>
    rw [Http.Reply.result, Http.Reply.answer.injEq]
    constructor
    · intro h
      split_ifs at h with hfinal
      obtain rfl := Except.ok.inj h
      exact ⟨rfl, hfinal⟩
    · rintro ⟨rfl, hfinal⟩
      rw [if_pos hfinal]
  | silence => exact iff_of_false nofun nofun
  | hangUp => exact iff_of_false nofun nofun

theorem interpret_result_eq_ok_iff (query : Query) (value : query.Result) :
    interpret query (reply.result url) = .ok value ↔
      ∃ given, reply = .answer given ∧ query.Gives given value := by
  rw [interpret_eq_ok_iff]
  constructor
  · rintro ⟨given, hresult, hgives⟩
    exact ⟨given, (result_eq_ok_iff.1 hresult).1, hgives⟩
  · rintro ⟨given, hreply, hgives⟩
    -- Nothing can be hoped for of an answer that is not final.
    obtain ⟨hlow, hhigh⟩ := status_of_isGood (gives_iff.1 hgives).1
    have hfinal : given.isFinal = true := isFinal_of_status hlow (by omega)
    exact ⟨given, result_eq_ok_iff.2 ⟨hreply, hfinal⟩, hgives⟩

theorem unanswered_eq (hquery : query ≠ .whoAmI) (failure : Failure) :
    unanswered query failure = query.failed failure.message := by
  cases query <;> first | exact absurd rfl hquery | rfl

theorem exists_of_decode (hquery : query ≠ .whoAmI) (h : decode query given = .error fault) :
    ∃ reason, fault = query.failed reason := by
  cases query with
  | whoAmI => exact absurd rfl hquery
  | history channel before limit =>
    rw [decode] at h
    split at h
    · cases h
    · exact ⟨_, (Except.error.inj h).symm⟩
  | reply channel messageId text => cases h
  | typing channel => cases h

/-- A call for a channel fails in one of three ways. -/
theorem fails_of_interpret (hquery : query ≠ .whoAmI)
    (h : interpret query (reply.result url) = .error fault) :
    Fails query.place query.failed reply fault := by
  cases hresult : reply.result url with
  | error failure =>
    rw [hresult, interpret, unanswered_eq hquery] at h
    cases h
    -- An answer with one of the two statuses is final.
    have hunfinal {status : Nat} (hlow : 200 ≤ status) (hhigh : status ≤ 999) :
        reply.status? ≠ some status := by
      cases reply with
      | answer given =>
        refine Http.Reply.status?_ne fun hstatus => ?_
        subst hstatus
        rw [Http.Reply.result, if_pos (isFinal_of_status hlow hhigh)] at hresult
        cases hresult
      | silence =>
        intro hsome
        cases hsome
      | hangUp =>
        intro hsome
        cases hsome
    exact .other (hunfinal (by decide) (by decide)) (hunfinal (by decide) (by decide)) _
  | ok given =>
    obtain ⟨rfl, -⟩ := result_eq_ok_iff.1 hresult
    rw [hresult, interpret] at h
    split_ifs at h with hgood
    · obtain ⟨reason, rfl⟩ := exists_of_decode hquery h
      obtain ⟨-, hhigh⟩ := status_of_isGood hgood
      exact .other (Http.Reply.status?_ne (by omega)) (Http.Reply.status?_ne (by omega)) reason
    · obtain rfl := Except.error.inj h
      rw [refusal]
      split_ifs with hlimited hrefused
      · exact .limited hlimited
      · exact .refused hrefused
      · exact .other (Http.Reply.status?_ne hlimited) (Http.Reply.status?_ne hrefused) _

/-- A call for a channel gives a value if the answer is good and has it, and `Fails` otherwise. -/
structure Understood {α : Type} (channel : String) (otherwise : String → TransportFault)
    (good : Answer → α → Prop) (reply : Http.Reply) (result : Except TransportFault α) : Prop where
  ok_iff : ∀ value, result = .ok value ↔ ∃ given, reply = .answer given ∧ good given value
  fails : ∀ fault, result = .error fault → Fails channel otherwise reply fault

theorem understood_interpret (query : Query) (hquery : query ≠ .whoAmI) :
    Understood query.place query.failed query.Gives reply (interpret query (reply.result url)) where
  ok_iff := interpret_result_eq_ok_iff query
  fails _ := fails_of_interpret hquery

theorem isOk_iff {α : Type} {result : Except TransportFault α} :
    result.isOk = true ↔ ∃ value, result = .ok value := by
  cases result with
  | ok value => exact iff_of_true rfl ⟨value, rfl⟩
  | error fault => exact iff_of_false nofun nofun

/-! ## What an errand comes to -/

variable {errand : Errand} {request : Http.Request} {channel before : String} {limit : Nat}

theorem drafted_of_request? (h : account.request? errand = some request) :
    account.drafted errand = .ok request := by
  rw [Account.request?] at h
  cases hdrafted : account.drafted errand with
  | error failure =>
    rw [hdrafted] at h
    cases h
  | ok other =>
    rw [hdrafted] at h
    exact congrArg Except.ok (Option.some.inj h)

theorem meet_of_request? (h : account.request? errand = some request) (reply : Http.Reply) :
    account.meet errand reply = errand.outcome (reply.result request.url) := by
  rw [Account.meet, drafted_of_request? h]
  rfl

/-- What an errand can come to for which no request is made. -/
def Errand.Unsent : (errand : Errand) → errand.Result → Prop
  | .whoAmI, result => ∃ reason, result = .error (.connectionLost reason)
  | .history channel _ limit, result =>
    (limit = 0 ∧ result = .ok []) ∨ ∃ reason, result = .error (.noHistory channel reason)
  | .reply message _, result => ∃ reason, result = .error (.undelivered message.channel reason)
  | .typing channel, result => ∃ reason, result = .error (.undelivered channel reason)
  | .health, result => result = false

theorem unsent_of_request? (h : account.request? errand = none) (reply : Http.Reply) :
    errand.Unsent (account.meet errand reply) := by
  rw [Account.request?] at h
  rw [Account.meet]
  cases hdrafted : account.drafted errand with
  | ok request =>
    rw [hdrafted] at h
    cases h
  | error failure =>
    cases errand with
    | whoAmI => exact ⟨_, rfl⟩
    | history channel before limit =>
      show Errand.Unsent _ (if limit = 0 then _ else _)
      split_ifs with hlimit
      · exact .inl ⟨hlimit, rfl⟩
      · exact .inr ⟨_, rfl⟩
    | reply message text => exact ⟨_, rfl⟩
    | typing channel => exact ⟨_, rfl⟩
    | health => rfl

/-! ## Limits -/

theorem encodeParameter_toString (n : Nat) : Url.encodeParameter (toString n) = toString n := by
  have hdigits : (toString n).toList = Nat.toDigits 10 n := Nat.toList_repr
  have hkept (c : Char) (hc : c ∈ Nat.toDigits 10 n) : c ≠ ' ' ∧ c.isAlphanum = true := by
    have hdigit := (Decimal.isDigits_toDigits n).isDigit c hc
    refine ⟨?_, by rw [Char.isAlphanum, hdigit, Bool.or_true]⟩
    rintro rfl
    exact absurd hdigit (by decide)
  rw [Url.encodeParameter, hdigits, List.flatMap_congr (g := fun c => [c])]
  · rw [List.flatMap_singleton', ← hdigits, String.ofList_toList]
  · intro c hc
    rw [if_neg (hkept c hc).1, if_pos (by rw [(hkept c hc).2, Bool.true_or])]

/-- Behind what the address may hold already, the query of a request for a history names the
message and the number, which is that of a page at the most. -/
theorem query_of_history (h : account.request? (.history channel before limit) = some request) :
    ∃ lead, (lead = "" ∨ ∃ own, lead = own ++ "&") ∧
      request.url.query = some (lead ++ "before=" ++ Url.encodeParameter before ++ "&limit=" ++
        toString (min limit maxPage)) := by
  have hdrafted := drafted_of_request? h
  rw [Account.drafted] at hdrafted
  split_ifs at hdrafted
  rw [draft] at hdrafted
  obtain ⟨url, -, -, hurl⟩ := exists_url_of_draft hdrafted
  have hadded : Url.encodeParameters [("before", before), ("limit", toString (min limit maxPage))] =
      "before=" ++ Url.encodeParameter before ++ "&limit=" ++ toString (min limit maxPage) := by
    have hbefore : Url.encodeParameter "before" ++ "=" = "before=" := by decide
    have hlimit : "&" ++ (Url.encodeParameter "limit" ++ "=") = "&limit=" := by decide
    show _ ++ "&" ++ (_ ++ "=" ++ Url.encodeParameter (toString (min limit maxPage))) = _
    rw [encodeParameter_toString, ← hbefore, ← hlimit]
    simp only [String.append_assoc]
  have hquery : request.url.query = (url.withoutUser.withQuery
      [("before", before), ("limit", toString (min limit maxPage))]).query :=
    congrArg Url.query hurl
  rw [hquery, Url.withQuery, hadded]
  cases url.withoutUser.query with
  | none => exact ⟨"", .inl rfl, by rw [String.empty_append]⟩
  | some own =>
    simp only
    split_ifs with hown
    · exact ⟨"", .inl rfl, by rw [String.empty_append]⟩
    · exact ⟨own ++ "&", .inr ⟨own, rfl⟩, by simp only [String.append_assoc]⟩

/-! ## Errands one after the other -/

/-- Whoever answers, errands that are run one after the other (`runErrands`) make the requests that
can be put together for them (`Account.request?`), each once, in order. Of the script of a server
they use up one reply for each request, and every errand comes to what it would come to by itself
with the reply that its request met (`meet`). No request is made for a history without messages, and
no more than a page is asked for (`maxPage`). A history is had with a status of 200 and an array of
posted messages, an answer is sent and the sign of writing is shown with a status of success, and
the platform knows the bot with a status of 200 and a user; every other reply is understood as the
call being limited, as the bot being refused, or as a failure of this call for its channel
(`Fails`). -/
theorem each_errand_meets_one_reply :
    (∀ (account : Account) (errands : List Errand),
      (∀ (σ : Type) (network : Network σ) (s : σ),
        (runErrands network.recording account ([], s) errands).2.1 =
          errands.filterMap account.request?) ∧
      ∀ server : Server, account.LeadsTo server →
        let run := runErrands serverNetwork account server errands
        run.2 = server.after (errands.filterMap account.request?) ∧
          ∀ k : Nat, run.1[k]? = errands[k]?.map fun errand => (⟨errand, account.meet errand
            (server.reply ((errands.take k).filterMap account.request?).length)⟩ :
              (errand : Errand) × errand.Result)) ∧
    (∀ (account : Account) (channel before : String),
      (account.request? (.history channel before 0) = none ∧
        ∀ reply, account.meet (.history channel before 0) reply = .ok []) ∧
      ∀ limit request, account.request? (.history channel before limit) = some request →
        ∃ lead, (lead = "" ∨ ∃ own, lead = own ++ "&") ∧
          request.url.query = some (lead ++ "before=" ++ Url.encodeParameter before ++ "&limit=" ++
            toString (min limit 100))) ∧
    ∀ (account : Account) (reply : Http.Reply),
      (∀ channel before limit, account.request? (.history channel before limit) ≠ none →
        Understood channel (.noHistory channel)
          (fun given messages => given.status = 200 ∧ Lists given messages) reply
          (account.meet (.history channel before limit) reply)) ∧
      (∀ message text, account.request? (.reply message text) ≠ none →
        Understood message.channel (.undelivered message.channel)
          (fun given _ => 200 ≤ given.status ∧ given.status < 300) reply
          (account.meet (.reply message text) reply)) ∧
      (∀ channel, account.request? (.typing channel) ≠ none →
        Understood channel (.undelivered channel)
          (fun given _ => 200 ≤ given.status ∧ given.status < 300) reply
          (account.meet (.typing channel) reply)) ∧
      (account.request? .health ≠ none → (account.meet .health reply = true ↔
        ∃ given user, reply = .answer given ∧ given.status = 200 ∧
          given.json?.bind User.ofJson? = some user)) ∧
      ∀ errand, account.request? errand = none → errand.Unsent (account.meet errand reply) := by
  refine ⟨fun account errands => ⟨?_, ?_⟩, ?_, ?_⟩
  · intro σ network s
    rw [runErrands_requests, List.nil_append]
  · intro server hleads
    exact runErrands_server hleads errands
  · intro account channel before
    refine ⟨⟨rfl, fun reply => rfl⟩, fun limit request hrequest => ?_⟩
    exact query_of_history hrequest
  · intro account reply
    -- Each errand that makes a request is one query, and is understood as that.
    refine ⟨?_, ?_, ?_, ?_, ?_⟩
    · intro channel before limit hbuilt
      obtain ⟨request, hrequest⟩ := Option.ne_none_iff_exists'.1 hbuilt
      have hlimit : limit ≠ 0 := by
        rintro rfl
        exact hbuilt rfl
      rw [meet_of_request? hrequest, Errand.outcome, if_neg hlimit]
      exact understood_interpret (.history channel before limit) (by simp)
    · intro message text hbuilt
      obtain ⟨request, hrequest⟩ := Option.ne_none_iff_exists'.1 hbuilt
      rw [meet_of_request? hrequest]
      exact understood_interpret (.reply message.channel message.id text) (by simp)
    · intro channel hbuilt
      obtain ⟨request, hrequest⟩ := Option.ne_none_iff_exists'.1 hbuilt
      rw [meet_of_request? hrequest]
      exact understood_interpret (.typing channel) (by simp)
    · intro hbuilt
      obtain ⟨request, hrequest⟩ := Option.ne_none_iff_exists'.1 hbuilt
      have hgives (user : User) : interpret .whoAmI (reply.result request.url) = .ok user ↔
          ∃ given, reply = .answer given ∧ Query.whoAmI.Gives given user :=
        interpret_result_eq_ok_iff .whoAmI user
      rw [meet_of_request? hrequest, Errand.outcome, isOk_iff]
      constructor
      · rintro ⟨user, huser⟩
        obtain ⟨given, hreply, hstatus, hbody⟩ := (hgives user).1 huser
        exact ⟨given, user, hreply, hstatus, hbody⟩
      · rintro ⟨given, user, hreply, hstatus, hbody⟩
        exact ⟨user, (hgives user).2 ⟨given, hreply, hstatus, hbody⟩⟩
    · intro errand hunsent
      exact unsent_of_request? hunsent reply

/-- A server that first says nothing, and then breaks off while it says that it has heard too
much. -/
def weary : Server where
  scheme := "http"
  host := .six [0, 0, 0, 0, 0, 0, 0, 1]
  endpoint := none
  replies := [.silence, .answer ⟨429, .broken⟩, .answer ⟨204, ""⟩]
  received := []

/-- Two histories are wanted, one of them without any messages, and then the bot is writing. -/
def pleas : List Errand :=
  [.history "general" "7" 200, .history "general" "7" 0, .typing "general"]

/-- The bot at that server. -/
def pleader : Account :=
  { guest with token := "tok" }

theorem each_errand_meets_one_reply_of_pleas :
    let run := runErrands serverNetwork pleader weary pleas
    pleader.LeadsTo weary ∧
      run.2.replies.length = 1 ∧
      run.2.received.map (fun request => request.url.query) = [some "before=7&limit=100", none] ∧
      run.1[2]? = some ⟨.typing "general", pleader.meet (.typing "general") (weary.reply 1)⟩ ∧
      ∀ fault, pleader.meet (.typing "general") (weary.reply 1) = .error fault →
        Fails "general" (.undelivered "general") (weary.reply 1) fault := by
  intro run
  have hleads : pleader.LeadsTo weary := by decide +kernel
  obtain ⟨hstate, hresults⟩ := (each_errand_meets_one_reply.1 pleader pleas).2 weary hleads
  have hqueries : (pleas.filterMap pleader.request?).map (fun request => request.url.query) =
      [some "before=7&limit=100", none] := by
    decide +kernel
  have hlength : (pleas.filterMap pleader.request?).length = 2 := by
    simpa using congrArg List.length hqueries
  have hbefore : ((pleas.take 2).filterMap pleader.request?).length = 1 := by decide +kernel
  have hbuilt : (pleader.request? (.typing "general")).isSome = true := by decide +kernel
  have htyping := (each_errand_meets_one_reply.2.2 pleader (weary.reply 1)).2.2.1 "general"
    (Option.isSome_iff_ne_none.1 hbuilt)
  refine ⟨hleads, ?_, ?_, ?_, htyping.fails⟩
  · rw [hstate, Server.after, hlength]
    rfl
  · rw [hstate]
    exact hqueries
  · rw [hresults 2, hbefore]
    rfl

end Discord

end Gadfly
