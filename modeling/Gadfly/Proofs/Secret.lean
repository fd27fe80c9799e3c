/-
  Gadfly.Proofs.Secret

  What credentials can be seen in.

  Nothing that the bot asks for, learns or shows depends on what its credentials are: not what
  comes of its calls, nor what it sends with them besides the credential itself, nor the texts in
  which accounts and settings are shown to people (`describe`). All of this is said of two runs at
  a time, which differ in a credential only.

  The calls are an `Errand` each on the chat platform, for what `Discord.history`,
  `Discord.reply`, `Discord.typing` and `Discord.isHealthy` want and for who the bot is, and a
  `Demand` each on the completion service, for `Responses.ask` and `Responses.probe`.

  Main definitions: `Discord.Errand`, `Discord.runErrands`, `Responses.Demand`,
  `Responses.runDemands`, `Settings.masked`.
  Main statements: `Discord.runErrands_agree`, `Responses.runDemands_agree`,
  `Settings.describe_masked`, `secrets_show_in_credentials_only`.
-/

import Gadfly.Discord.Rest
import Gadfly.Proofs.Gateway.Mask
import Gadfly.Proofs.Network
import Gadfly.Responses

namespace Gadfly

open Http

variable {σ : Type} {network : Network σ} {Alike : σ → σ → Prop} {s t : σ} {first second : String}

/-! ## Credentials that can be sent -/

namespace Http

/-- A text that can be sent as a credential. -/
def IsCredential (text : String) : Prop :=
  text.toList.all isHeaderChar = true

instance (text : String) : Decidable (IsCredential text) :=
  inferInstanceAs (Decidable (_ = _))

theorem IsCredential.append (hfirst : IsCredential first) (hsecond : IsCredential second) :
    IsCredential (first ++ second) := by
  rw [IsCredential, String.toList_append, List.all_append, hfirst, hsecond]
  rfl

end Http

/-! ## The chat platform -/

namespace Discord

variable (account : Account)

theorem draft_of_token (hfirst : IsCredential first) (hsecond : IsCredential second)
    (query : Query) :
    (draft { account with token := first } query).map Request.unsigned =
      (draft { account with token := second } query).map Request.unsigned := by
  have haddress (token path : String) :
      { account with token }.address path = account.address path := rfl
  have hauthorization (token : String) :
      { account with token }.authorization = "Bot " ++ token := rfl
  have hbot : IsCredential "Bot " := by decide
  have hsame := draft_map_unsigned (hbot.append hfirst) (hbot.append hsecond)
  cases query <;> simp only [draft, haddress, hauthorization] <;> exact hsame _ _ _ _

/-- A call is a request and what is made of the response. -/
theorem ask_eq (network : Network σ) (s : σ) (query : Query) :
    ask network account s query =
      (interpret query (send network s (draft account query)).1,
        (send network s (draft account query)).2) := by
  rw [ask]

/-- Something to be done on the chat platform: what the bot may ask of `Discord.history`,
`Discord.reply`, `Discord.typing` and `Discord.isHealthy`, and who it is itself. -/
inductive Errand where
  /-- Find out who the bot is itself. -/
  | whoAmI
  | history (channel before : String) (limit : Nat)
  | reply (message : Message) (text : String)
  | typing (channel : String)
  /-- Look whether the platform knows the bot. -/
  | health

/-- What comes of an `Errand`. -/
abbrev Errand.Result : Errand → Type
  | .whoAmI => Except TransportFault User
  | .history .. => Except TransportFault (List Message)
  | .reply .. | .typing .. => Except TransportFault Unit
  | .health => Bool

/-- Does an `Errand`, by the operation that it is for. -/
def runErrand (network : Network σ) (account : Account) (s : σ) :
    (errand : Errand) → errand.Result × σ
  | .whoAmI => ask network account s .whoAmI
  | .history channel before limit => history network account s channel before limit
  | .reply message text => reply network account s message text
  | .typing channel => typing network account s channel
  | .health => isHealthy network account s

/-- Does several things, one after the other (`inTurn`). -/
def runErrands (network : Network σ) (account : Account) (s : σ) (errands : List Errand) :
    List ((errand : Errand) × errand.Result) × σ :=
  inTurn (runErrand network account) s errands

/-- The request that is made for an `Errand`. Nobody is asked for no messages. -/
def Account.drafted (account : Account) : Errand → Except Failure Http.Request
  | .whoAmI | .health => draft account .whoAmI
  | .history channel before limit =>
    if limit = 0 then .error (.unsendable none) else draft account (.history channel before limit)
  | .reply message text => draft account (.reply message.channel message.id text)
  | .typing channel => draft account (.typing channel)

/-- What it comes to with what came of the request. -/
def Errand.outcome : (errand : Errand) → Except Failure Answer → errand.Result
  | .whoAmI, answer => interpret .whoAmI answer
  | .history channel before limit, answer =>
    if limit = 0 then .ok [] else interpret (.history channel before limit) answer
  | .reply message text, answer => interpret (.reply message.channel message.id text) answer
  | .typing channel, answer => interpret (.typing channel) answer
  | .health, answer => (interpret .whoAmI answer).isOk

/-- Whatever is to be done, at most one request is made, and what came of it is all that counts. -/
theorem runErrand_eq (network : Network σ) (s : σ) (errand : Errand) :
    runErrand network account s errand =
      (errand.outcome (send network s (account.drafted errand)).1,
        (send network s (account.drafted errand)).2) := by
  cases errand with
  | whoAmI => rw [runErrand, ask_eq, Errand.outcome, Account.drafted]
  | history channel before limit =>
    rw [runErrand, history, ask_eq, Errand.outcome, Account.drafted]
    split_ifs
    · rfl
    · rfl
  | reply message text => rw [runErrand, reply, ask_eq, Errand.outcome, Account.drafted]
  | typing channel => rw [runErrand, typing, ask_eq, Errand.outcome, Account.drafted]
  | health => rw [runErrand, isHealthy, ask_eq, Errand.outcome, Account.drafted]

theorem drafted_of_token (hfirst : IsCredential first) (hsecond : IsCredential second)
    (errand : Errand) :
    ({ account with token := first }.drafted errand).map Request.unsigned =
      ({ account with token := second }.drafted errand).map Request.unsigned := by
  have hdraft := draft_of_token account hfirst hsecond
  cases errand with
  | whoAmI => exact hdraft .whoAmI
  | history channel before limit =>
    rw [Account.drafted, Account.drafted]
    split_ifs
    · rfl
    · exact hdraft (.history channel before limit)
  | reply message text => exact hdraft (.reply message.channel message.id text)
  | typing channel => exact hdraft (.typing channel)
  | health => exact hdraft .whoAmI

theorem runErrand_agree (hblind : network.Blind Alike) (hfirst : IsCredential first)
    (hsecond : IsCredential second) (hs : Alike s t) (errand : Errand) :
    Agree Alike (runErrand network { account with token := first } s errand)
      (runErrand network { account with token := second } t errand) := by
  rw [runErrand_eq, runErrand_eq]
  exact (hblind.send hs (drafted_of_token account hfirst hsecond errand)).map errand.outcome

theorem authorization_of_draft {query : Query} {request : Http.Request}
    (h : draft account query = .ok request) : request.authorization = account.authorization := by
  cases query <;> rw [draft] at h <;> exact Http.authorization_of_draft h

/-- What is made for an errand is the request of a query. -/
theorem exists_query_of_drafted {errand : Errand} {request : Http.Request}
    (h : account.drafted errand = .ok request) : ∃ query, draft account query = .ok request := by
  cases errand with
  | whoAmI => exact ⟨.whoAmI, h⟩
  | history channel before limit =>
    rw [Account.drafted] at h
    split_ifs at h
    exact ⟨.history channel before limit, h⟩
  | reply message text => exact ⟨.reply message.channel message.id text, h⟩
  | typing channel => exact ⟨.typing channel, h⟩
  | health => exact ⟨.whoAmI, h⟩

theorem runErrands_signed (errands : List Errand) :
    Signed account.authorization (runErrands network.recording account ([], s) errands).2.1 := by
  refine inTurn_keeps (P := fun state : List Http.Request × σ => Signed _ state.1) ?_
    (signed_nil _) errands
  intro state hstate errand
  rw [runErrand_eq]
  refine hstate.send fun request hrequest => ?_
  obtain ⟨query, hdraft⟩ := exists_query_of_drafted account hrequest
  exact authorization_of_draft account hdraft

theorem runErrands_agree (hblind : network.Blind Alike) (hfirst : IsCredential first)
    (hsecond : IsCredential second) (hs : Alike s t) (errands : List Errand) :
    Agree Alike (runErrands network { account with token := first } s errands)
      (runErrands network { account with token := second } t errands) :=
  inTurn_agree (fun halike => runErrand_agree account hblind hfirst hsecond halike) hs errands

end Discord

/-! ## The completion service -/

namespace Responses

variable (account : Account)

theorem draft_of_key (hfirst : IsCredential first) (hsecond : IsCredential second)
    (request : Request) :
    (draft { account with key := first } request).map Http.Request.unsigned =
      (draft { account with key := second } request).map Http.Request.unsigned := by
  have hbearer : IsCredential "Bearer " := by decide
  exact draft_map_unsigned (hbearer.append hfirst) (hbearer.append hsecond) _ _ _ _

theorem probeDraft_of_key (hfirst : IsCredential first) (hsecond : IsCredential second) :
    (probeDraft { account with key := first }).map Http.Request.unsigned =
      (probeDraft { account with key := second }).map Http.Request.unsigned := by
  have hbearer : IsCredential "Bearer " := by decide
  exact draft_map_unsigned (hbearer.append hfirst) (hbearer.append hsecond) _ _ _ _

/-- Something wanted of the completion service: an answer by `Responses.ask`, or a look by
`Responses.probe`. -/
inductive Demand where
  | question (request : Request)
  /-- Look whether the service is there. -/
  | probe

/-- What comes of a `Demand`, with what is reported. -/
abbrev Demand.Result : Demand → Type
  | .question _ => Except ServiceFault Response × List Notice
  | .probe => Except ServiceFault Bool

/-- Has a `Demand` done. -/
def runDemand (network : Network σ) (account : Account) (s : σ) :
    (demand : Demand) → demand.Result × σ
  | .question request =>
    let (result, notices, s) := ask network account s request
    ((result, notices), s)
  | .probe => probe network account s

/-- Has several things done, one after the other (`inTurn`). -/
def runDemands (network : Network σ) (account : Account) (s : σ) (demands : List Demand) :
    List ((demand : Demand) × demand.Result) × σ :=
  inTurn (runDemand network account) s demands

theorem runDemand_agree (hblind : network.Blind Alike) (hfirst : IsCredential first)
    (hsecond : IsCredential second) (hs : Alike s t) (demand : Demand) :
    Agree Alike (runDemand network { account with key := first } s demand)
      (runDemand network { account with key := second } t demand) := by
  cases demand with
  | question request =>
    have hsent := hblind.send hs (draft_of_key account hfirst hsecond request)
    rw [runDemand, runDemand, ask, ask]
    generalize send network s (draft { account with key := first } request) = one at hsent
    generalize send network t (draft { account with key := second } request) = other at hsent
    exact hsent.map fun answer => (interpret answer, notices answer)
  | probe =>
    have hsent := hblind.send hs (probeDraft_of_key account hfirst hsecond)
    rw [runDemand, runDemand, probe, probe]
    generalize send network s (probeDraft { account with key := first }) = one at hsent
    generalize send network t (probeDraft { account with key := second }) = other at hsent
    exact hsent.map interpretProbe

theorem runDemands_signed (demands : List Demand) :
    Signed account.authorization (runDemands network.recording account ([], s) demands).2.1 := by
  refine inTurn_keeps (P := fun state : List Http.Request × σ => Signed _ state.1) ?_
    (signed_nil _) demands
  intro state hstate demand
  cases demand with
  | question request =>
    have hsent : Signed account.authorization
        (send network.recording state (draft account request)).2.1 :=
      hstate.send fun _ hrequest => authorization_of_draft hrequest
    rw [runDemand, ask]
    generalize send network.recording state (draft account request) = answered at hsent
    exact hsent
  | probe =>
    have hsent : Signed account.authorization
        (send network.recording state (probeDraft account)).2.1 :=
      hstate.send fun _ hrequest => authorization_of_draft hrequest
    rw [runDemand, probe]
    generalize send network.recording state (probeDraft account) = answered at hsent
    exact hsent

theorem runDemands_agree (hblind : network.Blind Alike) (hfirst : IsCredential first)
    (hsecond : IsCredential second) (hs : Alike s t) (demands : List Demand) :
    Agree Alike (runDemands network { account with key := first } s demands)
      (runDemands network { account with key := second } t demands) :=
  inTurn_agree (fun halike => runDemand_agree account hblind hfirst hsecond halike) hs demands

end Responses

/-! ## Texts for people to look at -/

/-- Settings that say which credentials there are (`openaiKey`, `discordToken`), but not what they
are. -/
def Settings.masked (settings : Settings) : Settings :=
  { settings with
    openaiKey := settings.openaiKey.map fun _ => ""
    discordToken := settings.discordToken.map fun _ => "" }

theorem redacted_map (f : String → String) (secret : Option String) :
    redacted (secret.map f) = redacted secret := by
  cases secret <;> rfl

theorem Settings.describe_masked (settings : Settings) :
    settings.masked.describe = settings.describe := by
  rw [describe, describe, masked, redacted_map, redacted_map]

/-- An account does not show its token. -/
theorem Discord.Account.describe_masked (account : Account) :
    account.masked.describe = account.describe := rfl

/-- What credentials there are makes no difference but to the credentials sent. Through a network
that does not look at them (`Network.Blind`), as one with a server that follows a script, calls come
to the same and make the same requests but for the credential, which is the one given; at the
gateway the same is delivered and the same frames are sent but for the token (`Outgoing.masked`);
and accounts and settings look the same (`describe`). -/
theorem secrets_show_in_credentials_only :
    (serverNetwork.Blind fun s t => s.unsigned = t.unsigned) ∧
    (∀ (σ : Type) (network : Network σ) (Alike : σ → σ → Prop), network.Blind Alike →
      ∀ (s : σ) (first second : String), IsCredential first → IsCredential second →
        (∀ (account : Discord.Account) (errands : List Discord.Errand),
          let run := fun token =>
            Discord.runErrands network.recording { account with token } ([], s) errands
          Agree (RecordedAlike Alike) (run first) (run second) ∧
            Signed ("Bot " ++ first) (run first).2.1) ∧
        ∀ (account : Responses.Account) (demands : List Responses.Demand),
          let run := fun key =>
            Responses.runDemands network.recording { account with key } ([], s) demands
          Agree (RecordedAlike Alike) (run first) (run second) ∧
            Signed ("Bearer " ++ first) (run first).2.1) ∧
    (∀ e f : Discord.Encounter, e.masked = f.masked →
      (∀ happenings : List Discord.Happening,
        (e.go happenings).2.1.map Discord.Outgoing.masked =
            (f.go happenings).2.1.map Discord.Outgoing.masked ∧
          (e.go happenings).2.2 = (f.go happenings).2.2) ∧
      ∀ moves : List Discord.Move,
        (e.playAll moves).map (Discord.Sighting.mapSent Discord.Outgoing.masked) =
          (f.playAll moves).map (Discord.Sighting.mapSent Discord.Outgoing.masked)) ∧
    (∀ first second : Discord.Account, first.masked = second.masked →
      first.describe = second.describe) ∧
    ∀ first second : Settings, first.masked = second.masked →
      first.describe = second.describe := by
  refine ⟨blind_serverNetwork, ?_, ?_, ?_, ?_⟩
  · intro σ network Alike hblind s first second hfirst hsecond
    -- A network that keeps the requests is as blind as the one it asks.
    have hrecording := hblind.recording
    have hstart : RecordedAlike Alike ([], s) ([], s) := hrecording.refl ([], s)
    constructor
    · intro account errands
      exact ⟨Discord.runErrands_agree account hrecording hfirst hsecond hstart errands,
        Discord.runErrands_signed { account with token := first } errands⟩
    · intro account demands
      exact ⟨Responses.runDemands_agree account hrecording hfirst hsecond hstart demands,
        Responses.runDemands_signed { account with key := first } demands⟩
  · intro e f hsame
    constructor
    · intro happenings
      exact (Discord.Encounter.go_of_masked_eq hsame happenings).2
    · intro moves
      exact Discord.Encounter.playAll_of_masked_eq hsame moves
  · intro first second hsame
    rw [← first.describe_masked, hsame, second.describe_masked]
  · intro first second hsame
    rw [← first.describe_masked, hsame, second.describe_masked]

section Script

/-- A server that refuses the credential once, and later says nothing. -/
def gruff : Server where
  scheme := "http"
  host := .six [0, 0, 0, 0, 0, 0, 0, 1]
  endpoint := none
  replies := [.answer ⟨401, ""⟩, .answer ⟨200, "[]"⟩, .silence]
  received := []

/-- The account of a bot at that server. -/
def guest : Discord.Account :=
  { Discord.Account.standard "" with base := "http://[::1]" }

/-- Four things to do, and one of them makes no request. -/
def chores : List Discord.Errand :=
  [.health, .history "general" "7" 0, .history "general" "7" 200, .typing "general"]

/-- The errands of that bot with a token. -/
def chored (token : String) :
    List ((errand : Discord.Errand) × errand.Result) × List Http.Request × Server :=
  Discord.runErrands serverNetwork.recording { guest with token } ([], gruff) chores

/-- What is seen of that bot at the gateway when it is let in and greeted. -/
def admitted (token : String) : List Discord.Sighting :=
  (Discord.Encounter.start { guest with token }).playAll
    [.accept, .send ["\x7b\"op\":10,\"d\":\x7b\"heartbeat_interval\":1000\x7d\x7d"]]

set_option maxRecDepth 2000 in
theorem secrets_show_in_credentials_of_guest :
    (chored "first").1 = (chored "second").1 ∧
      (chored "first").2.1.map Request.unsigned = (chored "second").2.1.map Request.unsigned ∧
      (chored "first").2.1.map Request.authorization =
        ["Bot first", "Bot first", "Bot first"] ∧
      (admitted "first").map (Discord.Sighting.mapSent Discord.Outgoing.masked) =
        (admitted "second").map (Discord.Sighting.mapSent Discord.Outgoing.masked) := by
  have hfirst : IsCredential "first" := by decide
  have hsecond : IsCredential "second" := by decide
  have hagree : Agree (RecordedAlike fun s t => s.unsigned = t.unsigned) (chored "first")
      (chored "second") :=
    ((secrets_show_in_credentials_only.2.1 Server serverNetwork _ blind_serverNetwork gruff
      "first" "second" hfirst hsecond).1 guest chores).1
  have hseen := (secrets_show_in_credentials_only.2.2.1
    (.start { guest with token := "first" }) (.start { guest with token := "second" }) rfl).2
  exact ⟨hagree.1, hagree.2.1, by decide +kernel, hseen _⟩

end Script

end Gadfly
