/-
  Gadfly.Proofs.Post

  One message, two ways in.

  A posted message comes in over the gateway, when it is posted, and in the history of its
  channel. Both ways read the same value, but not in the same manner: `decode` reads a history as
  what it should be and passes over unknown members, while `Frame.ofJson?` reads the data of a
  frame as a value of any structure first (`value?`). For a value that is `Proper` that makes no
  difference. One that is only `Unambiguous`, with a number without a double or a text with an
  unpaired surrogate somewhere in it, may still come in with a history, but the gateway drops it
  (`drops_of_not_proper`). Whichever way a message comes in, its fields are those of the value
  (`Depicts`).

  Main definitions: `Discord.Depicts`, `Discord.Announces`, `Discord.Forwards`, `Discord.Drops`,
  `Discord.Lists`, `Discord.Query.Gives`, `Discord.OnlyInHistory`.
  Main statements: `Discord.depicts_of_ofJson?`, `Discord.announcement?_of_announces`,
  `Discord.drops_of_not_proper`, `Discord.interpret_eq_ok_iff`,
  `Discord.history_agrees_with_gateway`, `Discord.onlyInHistory_of_huge_or_unreadable`.
-/

import Gadfly.Proofs.Gateway.Turn
import Gadfly.Proofs.JsonText
import Gadfly.Proofs.Message

namespace Gadfly.Discord

open Gadfly.Json Gadfly.Time

/-! ## What a value says of a message -/

/-- The nickname of the author, in a posted message. -/
def nickname? (post : Json) : Option String := do
  let member ← post.field? 5 "member"
  let nick ← member.field? 0 "nick"
  nick.text?

/-- A text that is told of the author of a posted message. -/
def authorText? (place : Nat) (name : String) (post : Json) : Option String := do
  let author ← post.field? 3 "author"
  let written ← author.field? place name
  written.text?

/-- Whether a user is among those that are mentioned in a posted message. -/
def IsMentioned (post : Json) (id : String) : Prop :=
  ∃ users user, post.field? 4 "mentions" = some (.array users) ∧ user ∈ users ∧
    user.field? 0 "id" = some (.string id)

/-- A value depicts a message: every field of the message is found in the value, or has the value
that stands for a missing one. -/
structure Depicts (post : Json) (message : Message) : Prop where
  id : post.field? 0 "id" = some (.string message.id)
  authorId : authorText? 0 "id" post = some message.authorId
  /-- The nickname, else the name that is shown everywhere, else the name of the account. -/
  authorName : some message.authorName =
    (nickname? post).or ((authorText? 2 "global_name" post).or (authorText? 1 "username" post))
  channel : post.field? 1 "channel_id" = some (.string message.channel)
  content : message.content = ((post.field? 2 "content").bind text?).getD ""
  fromBot : message.fromBot =
    (((post.field? 3 "author").bind (field? 3 "bot")).bind flag?).getD false
  mentions : ∀ id, message.mentions.contains id = true ↔ IsMentioned post id
  timestamp : ((post.field? 6 "timestamp").bind text?).bind Timestamp.read? =
    some message.timestamp

theorem User.fields_of_ofJson? {j : Json} {user : User} (h : User.ofJson? j = some user) :
    j.field? 0 "id" = some (.string user.id) ∧
      j.field? 1 "username" = some (.string user.username) ∧
      (j.field? 2 "global_name").bind text? = user.globalName ∧
      ((j.field? 3 "bot").bind flag?).getD false = user.bot := by
  rw [User.ofJson?] at h
  split at h
  · rename_i id username globalName bot hslots
    simp only [Option.bind_eq_bind, Option.bind_eq_some_iff, Option.pure_def] at h
    obtain ⟨_, hid, _, husername, _, hglobal, _, hbot, hdone⟩ := h
    obtain rfl := Option.some.inj hdone
    rw [field?_of_fields? hslots rfl, field?_of_fields? hslots rfl, field?_of_fields? hslots rfl,
      field?_of_fields? hslots rfl]
    exact ⟨required_text?_eq_some_iff.1 hid, required_text?_eq_some_iff.1 husername,
      (eq_of_optional rfl hglobal).symm, (eq_of_orElse hbot).symm⟩
  · cases h

theorem Member.nick_of_ofJson? {j : Json} {member : Member} (h : Member.ofJson? j = some member) :
    (j.field? 0 "nick").bind text? = member.nick := by
  rw [Member.ofJson?] at h
  split at h
  · rename_i nick hslots
    simp only [Option.bind_eq_bind, Option.bind_eq_some_iff, Option.pure_def] at h
    obtain ⟨_, hnick, hdone⟩ := h
    obtain rfl := Option.some.inj hdone
    rw [field?_of_fields? hslots rfl]
    exact (eq_of_optional rfl hnick).symm
  · cases h

/-- The users of a list are mentioned by the ids that the values of the list have. -/
theorem mem_ids_iff {items : List Json} {users : List User}
    (h : List.Forall₂ (fun j user => User.ofJson? j = some user) items users) (id : String) :
    id ∈ users.map User.id ↔ ∃ user ∈ items, user.field? 0 "id" = some (.string id) := by
  induction h with
  | nil => simp
  | cons hfirst _ ih =>
    rw [List.map_cons, List.mem_cons, List.exists_mem_cons_iff, ih,
      (User.fields_of_ofJson? hfirst).1, Option.some.injEq, Json.string.injEq, eq_comm]

theorem displayName_eq (post : Post) :
    some post.displayName =
      (post.member.bind (·.nick)).or (post.author.globalName.or (some post.author.username)) := by
  rw [Post.displayName]
  cases post.member.bind (·.nick) with
  | some nick => rfl
  | none => cases post.author.globalName <;> rfl

/-- The mentioned users are those of the list, and nobody where there is none. -/
theorem isMentioned_iff {j : Json} {users : List User}
    (h : orElse [] (list? User.ofJson?) (j.field? 4 "mentions") = some users) (id : String) :
    id ∈ users.map User.id ↔ IsMentioned j id := by
  rw [IsMentioned]
  cases hslot : j.field? 4 "mentions" with
  | none =>
    rw [hslot] at h
    obtain rfl := Option.some.inj h
    simp
  | some written =>
    rw [hslot, orElse, list?_eq_some_iff] at h
    obtain ⟨items, rfl, hitems⟩ := h
    rw [mem_ids_iff hitems]
    constructor
    · rintro ⟨user, huser, hid⟩
      exact ⟨items, user, rfl, huser, hid⟩
    · rintro ⟨_, user, hsame, huser, hid⟩
      obtain rfl := Json.array.inj (Option.some.inj hsame)
      exact ⟨user, huser, hid⟩

theorem nickname?_eq {j : Json} {member : Option Member}
    (h : optional Member.ofJson? (j.field? 5 "member") = some member) :
    nickname? j = member.bind (·.nick) := by
  rw [nickname?]
  generalize j.field? 5 "member" = slot at h
  rw [Json.optional.eq_def] at h
  split at h
  · obtain rfl := Option.some.inj h
    rfl
  · obtain rfl := Option.some.inj h
    rfl
  · obtain ⟨known, hknown, rfl⟩ := Option.map_eq_some_iff.1 h
    exact Member.nick_of_ofJson? hknown

/-- A message is depicted (`Depicts`) by the value that it was read from. -/
theorem depicts_of_ofJson? {j : Json} {post : Post} (h : Post.ofJson? j = some post) :
    Depicts j post.toMessage := by
  rw [Post.ofJson?] at h
  split at h
  · rename_i id channel content author mentions member timestamp hslots
    simp only [Option.bind_eq_bind, Option.bind_eq_some_iff, Option.pure_def] at h
    obtain ⟨_, hid, _, hchannel, _, hcontent, user, huser, users, husers, known, hknown, time,
      htime, hdone⟩ := h
    obtain rfl := Option.some.inj hdone
    -- What was read from a slot is told by the field that it was written as.
    have hfields := (fields?_eq_some_iff.1 hslots).2
    simp only [List.mapIdx_cons, List.mapIdx_nil, Nat.reduceAdd, List.cons.injEq, and_true]
      at hfields
    obtain ⟨rfl, rfl, rfl, rfl, rfl, rfl, rfl⟩ := hfields
    obtain ⟨written, hauthor, hwritten⟩ := required_eq_some_iff.1 huser
    obtain ⟨huserId, husername, hglobal, hbot⟩ := User.fields_of_ofJson? hwritten
    exact {
      id := required_text?_eq_some_iff.1 hid
      authorId := by
        rw [authorText?, hauthor]
        simp only [Option.bind_eq_bind, Option.bind_some, huserId]
        rfl
      authorName := by
        rw [nickname?_eq hknown, authorText?, authorText?, hauthor]
        simp only [Option.bind_eq_bind, Option.bind_some, husername, hglobal]
        exact displayName_eq _
      channel := required_text?_eq_some_iff.1 hchannel
      content := eq_of_orElse hcontent
      fromBot := by
        rw [hauthor, Option.bind_some, hbot]
        rfl
      mentions := fun id => NameSet.contains_ofList.trans (isMentioned_iff husers id)
      timestamp := by
        obtain ⟨moment, hmoment, htime⟩ := required_eq_some_iff.1 htime
        rw [hmoment, Option.bind_some, htime]
        rfl }
  · cases h

/-! ## What the gateway makes of a text -/

/-- A text is a frame that announces a message, with a value for its data. -/
def Announces (text : String) (value : Json) : Prop :=
  ∃ j op sequence number, Json.read? text = some j ∧
    fields? ["op", "d", "s", "t"] j =
      some [some op, some value, sequence, some (.string "MESSAGE_CREATE")] ∧
    op.natural? 0x100 = some opDispatch ∧
    Json.optional (natural? 0x10000000000000000) sequence = some number

/-- A listener that has been greeted delivers just this of a text, as long as somebody takes it. -/
def Delivers (account : Account) (text : String) (events : List Event) : Prop :=
  ∀ moment session backoff, moment.account = account → moment.taken = true →
    (Listener.step moment ⟨.listening session, backoff⟩ (.text text)).delivered = events

/-- A text brings a message to everybody who listens to the channel of the message. -/
def Forwards (text : String) (message : Message) : Prop :=
  ∀ account, Delivers account text (if account.listensTo message.channel then [.ok message] else [])

/-- A text brings nothing to anybody. -/
def Drops (text : String) : Prop :=
  ∀ account, Delivers account text []

theorem delivers_announcement? (account : Account) (text : String) :
    Delivers account text ((announcement? account text).toList.map .ok) := by
  rintro moment session backoff rfl htaken
  exact (turn_step moment ⟨.listening session, backoff⟩ (.text text)).delivered_of_text htaken

theorem Delivers.unique {account : Account} {text : String} {events others : List Event}
    (h : Delivers account text events) (hothers : Delivers account text others) :
    events = others := by
  let moment : Moment := ⟨account, true, 0⟩
  exact (h moment ⟨0, 0, none, false⟩ 0 rfl rfl).symm.trans
    (hothers moment ⟨0, 0, none, false⟩ 0 rfl rfl)

/-- A `Proper` value in a frame that announces it (`Announces`) is read like any other posted
message. -/
theorem announcement?_of_announces {text : String} {value : Json} (h : Announces text value)
    (hproper : Proper (maxDepth - 1) value) (account : Account) :
    announcement? account text = (Post.ofJson? value).bind fun post =>
      if account.listensTo post.channel then some post.toMessage else none := by
  obtain ⟨j, op, sequence, number, hread, hfields, hop, hnumber⟩ := h
  -- Reading the data as a value of any structure changes nothing.
  have hframe : readFrame? text =
      some ⟨opDispatch, value, number, some "MESSAGE_CREATE"⟩ := by
    rw [readFrame?, hread, Option.bind_some, Frame.ofJson?, hfields]
    simp only [required, orElse, hop, value?_of_proper hproper, hnumber]
    rfl
  rw [announcement?, hframe, Option.bind_some, if_pos ⟨rfl, rfl⟩]

theorem forwards_iff {text : String} {value : Json} (h : Announces text value)
    (hproper : Proper (maxDepth - 1) value) (message : Message) :
    Forwards text message ↔ (Post.ofJson? value).map Post.toMessage = some message := by
  have hdelivers := fun account => delivers_announcement? account text
  simp only [announcement?_of_announces h hproper] at hdelivers
  cases hpost : Post.ofJson? value with
  | none =>
    refine iff_of_false (fun hforwards => ?_) nofun
    -- Somebody listens to all channels.
    have hopen := (hforwards (.standard "")).unique (hdelivers (.standard ""))
    rw [hpost] at hopen
    cases hopen
  | some post =>
    rw [hpost] at hdelivers
    have hpassed (account : Account) : Delivers account text
        (if account.listensTo post.channel then [.ok post.toMessage] else []) := by
      have hdelivered := hdelivers account
      simp only [Option.bind_some] at hdelivered
      split
      · rename_i hlistens
        rwa [if_pos hlistens] at hdelivered
      · rename_i hlistens
        rwa [if_neg hlistens] at hdelivered
    rw [Option.map_some, Option.some.injEq]
    constructor
    · intro hforwards
      have hopen := (hpassed (.standard "")).unique (hforwards (.standard ""))
      exact Except.ok.inj (List.singleton_inj.1 hopen)
    · rintro rfl
      exact hpassed

theorem drops_iff {text : String} {value : Json} (h : Announces text value)
    (hproper : Proper (maxDepth - 1) value) : Drops text ↔ Post.ofJson? value = none := by
  have hdelivers := fun account => delivers_announcement? account text
  simp only [announcement?_of_announces h hproper] at hdelivers
  cases hpost : Post.ofJson? value with
  | none =>
    rw [hpost] at hdelivers
    exact iff_of_true hdelivers rfl
  | some post =>
    refine iff_of_false (fun hdrops => ?_) nofun
    have hopen := (hdrops (.standard "")).unique (hdelivers (.standard ""))
    rw [hpost] at hopen
    cases hopen

/-- A value that is refused takes its frame with it (`Drops`). -/
theorem drops_of_not_proper {text : String} {value : Json} (h : Announces text value)
    (hunambiguous : Unambiguous (maxDepth - 1) value) (himproper : ¬Proper (maxDepth - 1) value) :
    Drops text := by
  obtain ⟨j, op, sequence, number, hread, hfields, hop, -⟩ := h
  have hframe : readFrame? text = none := by
    rw [readFrame?, hread, Option.bind_some, Frame.ofJson?, hfields]
    simp only [required, orElse, hop, value?_eq_none_of_not_proper hunambiguous himproper]
    rfl
  -- A frame that cannot be read is garbled to a listener, and announces nothing.
  intro account
  have hdelivers := delivers_announcement? account text
  rwa [announcement?, hframe] at hdelivers

/-- Whatever is delivered is depicted by the data of the frame that brought it. -/
theorem depicts_of_delivered {moment : Moment} {listener : Listener} {signal : Signal}
    {message : Message} (h : .ok message ∈ (listener.step moment signal).delivered) :
    ∃ text frame, signal = .text text ∧ readFrame? text = some frame ∧
      Depicts frame.data message := by
  obtain ⟨text, hsignal, hannounced⟩ := (turn_step moment listener signal).exists_of_ok_mem h
  obtain ⟨frame, hread, hframe⟩ := Option.bind_eq_some_iff.1 hannounced
  refine ⟨text, frame, hsignal, hread, ?_⟩
  split at hframe
  · obtain ⟨post, hpost, hmessage⟩ := Option.bind_eq_some_iff.1 hframe
    split at hmessage
    · obtain rfl := Option.some.inj hmessage
      exact depicts_of_ofJson? hpost
    · cases hmessage
  · cases hframe

/-! ## What is hoped for of an answer -/

/-- An answer has an array of posted messages in its body, and they are these. -/
def Lists (given : Http.Answer) (messages : List Message) : Prop :=
  ∃ values, given.json? = some (.array values) ∧
    List.Forall₂ (fun value message => (Post.ofJson? value).map Post.toMessage = some message)
      values messages

/-- The answers that are hoped for, and what they give. -/
def Query.Gives : (query : Query) → Http.Answer → query.Result → Prop
  | .whoAmI, given, user => given.status = 200 ∧ given.json?.bind User.ofJson? = some user
  | .history .., given, messages => given.status = 200 ∧ Lists given messages
  | .reply .., given, _ | .typing .., given, _ => 200 ≤ given.status ∧ given.status < 300

section Answer

variable {query : Query} {given : Http.Answer} {answered : Except Http.Failure Http.Answer}

/-- A body that spells a text is read as the text is. -/
theorem json?_ofText {status : Nat} {text : String}
    (h : Http.Answer.hasBody ⟨status, text⟩ = true) :
    Http.Answer.json? ⟨status, text⟩ = read? text := by
  rw [Http.Answer.json?, Http.Body.ofText]
  exact (if_pos h).trans (readBytes?_encode text)

theorem lists_iff {messages : List Message} :
    Lists given messages ↔
      (given.json?.bind (Json.list? Post.ofJson?)).map (List.map Post.toMessage) =
        some messages := by
  have hmap : (given.json?.bind (Json.list? Post.ofJson?)).map (List.map Post.toMessage) =
      given.json?.bind (Json.list? fun value => (Post.ofJson? value).map Post.toMessage) := by
    rw [Option.map_bind]
    exact congrArg given.json?.bind (funext fun j => (Json.list?_map Post.toMessage j).symm)
  rw [hmap, Option.bind_eq_some_iff, Lists]
  simp only [Json.list?_eq_some_iff]
  constructor
  · rintro ⟨values, hbody, hvalues⟩
    exact ⟨.array values, hbody, values, rfl, hvalues⟩
  · rintro ⟨_, hbody, values, rfl, hvalues⟩
    exact ⟨values, hbody, hvalues⟩

/-- What is given is what the body of a good answer is read as. -/
theorem gives_iff {value : query.Result} :
    query.Gives given value ↔ isGood query given = true ∧ decode query given = .ok value := by
  cases query with
  | whoAmI =>
    rw [Query.Gives, isGood, decode, beq_iff_eq]
    refine and_congr_right fun _ => ?_
    cases given.json?.bind User.ofJson? <;> simp
  | history channel before limit =>
    rw [Query.Gives, isGood, decode, beq_iff_eq, lists_iff]
    refine and_congr_right fun _ => ?_
    cases given.json?.bind (Json.list? Post.ofJson?) <;> simp
  | reply channel messageId text => simp [Query.Gives, isGood, decode, Http.Answer.isSuccess]
  | typing channel => simp [Query.Gives, isGood, decode, Http.Answer.isSuccess]

/-- A call gives a value (`interpret`) only if there is an answer that is hoped for and gives it
(`Query.Gives`). -/
theorem interpret_eq_ok_iff {value : query.Result} :
    interpret query answered = .ok value ↔
      ∃ given, answered = .ok given ∧ query.Gives given value := by
  cases answered with
  | error failure =>
    refine iff_of_false nofun ?_
    rintro ⟨_, hanswer, -⟩
    cases hanswer
  | ok given =>
    rw [interpret]
    constructor
    · intro h
      split_ifs at h with hgood
      exact ⟨given, rfl, gives_iff.2 ⟨hgood, h⟩⟩
    · rintro ⟨_, hanswer, hgives⟩
      obtain rfl := Except.ok.inj hanswer
      obtain ⟨hgood, hdecode⟩ := gives_iff.1 hgives
      rw [if_pos hgood, hdecode]

end Answer

/-! ## What comes of a history -/

variable {σ : Type} {network : Http.Network σ} {account : Account} {s : σ}
  {channel earlier : String} {limit : Nat} {answer : Http.Answer} {values : List Json}

theorem ask_fst (query : Query) :
    (ask network account s query).1 =
      interpret query (Http.send network s (draft account query)).1 := rfl

/-- A history is asked for in one request, and understood from what comes back. -/
theorem history_fst (hlimit : limit ≠ 0) :
    (history network account s channel earlier limit).1 =
      interpret (.history channel earlier limit)
        (Http.send network s (draft account (.history channel earlier limit))).1 := by
  rw [history, if_neg hlimit, ask_fst]

/-- A good answer to the wish for a history is read item by item. -/
theorem interpret_history (hstatus : answer.status = 200)
    (hbody : answer.json? = some (.array values)) :
    interpret (.history channel earlier limit) (.ok answer) =
      match list? (fun value => (Post.ofJson? value).map Post.toMessage) (.array values) with
      | some messages => .ok messages
      | none => .error (.noHistory channel ("unparseable history: " ++ undecodable)) := by
  have hgood : isGood (.history channel earlier limit) answer = true := beq_iff_eq.2 hstatus
  rw [interpret, if_pos hgood, decode, hbody, list?_map, Option.bind_some]
  cases list? Post.ofJson? (.array values) <;> rfl

/-- A history consists of messages that are depicted by the values of an array, in their order. -/
theorem depicts_of_history {messages : List Message}
    (h : (history network account s channel earlier limit).1 = .ok messages) :
    (limit = 0 ∧ messages = []) ∨ ∃ answer values,
      (Http.send network s (draft account (.history channel earlier limit))).1 = .ok answer ∧
        answer.json? = some (.array values) ∧ List.Forall₂ Depicts values messages := by
  by_cases hlimit : limit = 0
  · rw [history, if_pos hlimit] at h
    exact .inl ⟨hlimit, (Except.ok.inj h).symm⟩
  right
  rw [history_fst hlimit, interpret_eq_ok_iff] at h
  obtain ⟨answer, hanswer, -, values, hbody, hvalues⟩ := h
  refine ⟨answer, values, hanswer, hbody, hvalues.imp fun value message hmessage => ?_⟩
  obtain ⟨post, hpost, rfl⟩ := Option.map_eq_some_iff.1 hmessage
  exact depicts_of_ofJson? hpost

/-! ## Both ways -/

/-- What stands in two lists at the same places is related to the same. -/
theorem forall₂_iff_of_forall₂ {α β γ : Type} {R : α → γ → Prop} {S : β → γ → Prop} {xs : List α}
    {ys : List β} (h : List.Forall₂ (fun x y => ∀ z, R x z ↔ S y z) xs ys) (zs : List γ) :
    List.Forall₂ R xs zs ↔ List.Forall₂ S ys zs := by
  induction h generalizing zs with
  | nil => rw [List.forall₂_nil_left_iff, List.forall₂_nil_left_iff]
  | cons hfirst _ ih =>
    rw [List.forall₂_cons_left_iff, List.forall₂_cons_left_iff]
    simp only [hfirst, ih]

theorem exists_mem_iff_of_forall₂ {α β : Type} {P : α → Prop} {Q : β → Prop} {xs : List α}
    {ys : List β} (h : List.Forall₂ (fun x y => P x ↔ Q y) xs ys) :
    (∃ x ∈ xs, P x) ↔ ∃ y ∈ ys, Q y := by
  induction h with
  | nil => simp
  | cons hfirst _ ih => rw [List.exists_mem_cons_iff, List.exists_mem_cons_iff, hfirst, ih]

variable {texts : List String}

/-- The messages of a list of proper values are those that the gateway forwards for them. -/
theorem forwards_texts_iff (hproper : ∀ value ∈ values, Proper (maxDepth - 1) value)
    (htexts : List.Forall₂ Announces texts values) (messages : List Message) :
    list? (fun value => (Post.ofJson? value).map Post.toMessage) (.array values) =
      some messages ↔ List.Forall₂ Forwards texts messages := by
  have hboth := (List.forall₂_and_left values texts).2 ⟨hproper, htexts.flip⟩
  rw [list?, mapM_eq_some_iff]
  refine forall₂_iff_of_forall₂ (hboth.imp fun value text h message => ?_) messages
  exact (forwards_iff h.2 h.1 message).symm

theorem drops_text_iff (hproper : ∀ value ∈ values, Proper (maxDepth - 1) value)
    (htexts : List.Forall₂ Announces texts values) :
    list? (fun value => (Post.ofJson? value).map Post.toMessage) (.array values) = none ↔
      ∃ text ∈ texts, Drops text := by
  have hboth := (List.forall₂_and_left values texts).2 ⟨hproper, htexts.flip⟩
  rw [list?_eq_none_iff]
  refine exists_mem_iff_of_forall₂ (hboth.imp fun value text h => ?_)
  rw [drops_iff h.2 h.1, Option.map_eq_none_iff]

/-- A `history` that is answered with a list of `Proper` values consists of the messages that the
gateway forwards for these values, in the same order and number. It fails exactly if the gateway
drops one of the values. An `Unambiguous` value that is not proper is dropped in any case. Whichever
way a message comes in, its fields are those of the value that it was read from. -/
theorem history_agrees_with_gateway {σ : Type} (network : Http.Network σ) (account : Account)
    (s : σ) (channel earlier : String) (limit : Nat) :
    let asked := (Http.send network s (draft account (.history channel earlier limit))).1
    let result := (history network account s channel earlier limit).1
    (∀ answer values texts, limit ≠ 0 → asked = .ok answer → answer.status = 200 →
      answer.json? = some (.array values) → (∀ value ∈ values, Proper (maxDepth - 1) value) →
      List.Forall₂ Announces texts values →
        (∀ messages, result = .ok messages ↔ List.Forall₂ Forwards texts messages) ∧
        ((∃ messages, result = .ok messages) ↔ ¬∃ text ∈ texts, Drops text) ∧
        ((∃ reason, result = .error (.noHistory channel reason)) ↔ ∃ text ∈ texts, Drops text)) ∧
    (∀ text value, Announces text value → Unambiguous (maxDepth - 1) value →
      ¬Proper (maxDepth - 1) value → Drops text) ∧
    (∀ messages, result = .ok messages → (limit = 0 ∧ messages = []) ∨
      ∃ answer values, asked = .ok answer ∧ answer.json? = some (.array values) ∧
        List.Forall₂ Depicts values messages) ∧
    ∀ (moment : Moment) (listener : Listener) (signal : Signal) (message : Message),
      .ok message ∈ (listener.step moment signal).delivered →
        ∃ text frame, signal = .text text ∧ readFrame? text = some frame ∧
          Depicts frame.data message := by
  intro asked result
  refine ⟨?_, fun _ _ => drops_of_not_proper, fun messages => depicts_of_history,
    fun _ _ _ _ => depicts_of_delivered⟩
  intro answer values texts hlimit hasked hstatus hbody hproper htexts
  have hresult : result = _ :=
    (history_fst hlimit).trans ((congrArg _ hasked).trans (interpret_history hstatus hbody))
  rw [hresult, ← drops_text_iff hproper htexts]
  simp only [← forwards_texts_iff hproper htexts]
  cases list? (fun value => (Post.ofJson? value).map Post.toMessage) (.array values) with
  | none => simp
  | some messages => simp

section Scene

/-- A frame that announces a message. -/
def announcing (value : Json) : Json :=
  .object [("t", .string "MESSAGE_CREATE"), ("s", .ofNat 3), ("op", .ofNat opDispatch),
    ("d", value)]

/-- Every value that can be said is announced by a text. -/
theorem announces_write {value : Json} (h : Legible value) :
    Announces (write (announcing value)) value := by
  have hlegible : Legible (announcing value) := by simp [announcing, h]
  refine ⟨announcing value, .ofNat opDispatch, some (.ofNat 3), some 3, read?_write hlegible,
    ?_, ?_, ?_⟩
  · simp [announcing, fields?, occurrences, find?]
  · exact natural?_ofNat 0x100 opDispatch
  · exact congrArg (Option.map some) (natural?_ofNat 0x10000000000000000 3)

/-- A posted message as an object: the author has a nickname, and mentions somebody. -/
def named : Json :=
  .object [("id", .string "2"), ("channel_id", .string "900"), ("content", .string "so"),
    ("member", .object [("nick", .string "Ally")]),
    ("author", .object [("id", .string "7"), ("username", .string "alice"),
      ("global_name", .string "Alice A.")]),
    ("mentions", .array [.array [.string "42", .string "gadfly", .null, .bool true]]),
    ("timestamp", .string "2024-05-01T12:00:00Z")]

/-- A posted message as an array: the author has no name but that of the account. -/
def nameless : Json :=
  .array [.string "1", .string "900", .string "no", .array [.string "8", .string "bob"], .array [],
    .null, .string "2024-05-01T11:00:00Z"]

/-- A posted message with a member that nobody asks for. -/
def remarked (remark : Json) : Json :=
  .object [("id", .string "3"), ("channel_id", .string "900"), ("content", .string "why"),
    ("author", .array [.string "8", .string "bob"]),
    ("timestamp", .string "2024-05-01T13:00:00Z"), ("remark", remark)]

/-- A number that is larger than any double. -/
def huge : Numeral := ⟨false, ['1'], [], some 999⟩

/-- A page of history. -/
def page (values : List Json) : Http.Answer :=
  ⟨200, write (.array values)⟩

/-- A network on this machine in which all is answered with that page. -/
def library (values : List Json) : Http.Network Unit := fun _ _ => (.ok (page values), ())

/-- An account with that network. -/
def reader : Account :=
  { Account.standard "tok" with base := "http://[::1]" }

theorem json?_page {values : List Json} (h : ∀ value ∈ values, Legible value) :
    (page values).json? = some (.array values) :=
  (json?_ofText rfl).trans (read?_write (.array h))

theorem send_library (values : List Json) :
    (Http.send (library values) () (draft reader (.history "900" "3" 2))).1 =
      .ok (page values) := by
  have hdraft : (draft reader (.history "900" "3" 2)).isOk = true := by decide +kernel
  cases hrequest : draft reader (.history "900" "3" 2) with
  | ok request => rfl
  | error failure =>
    rw [hrequest] at hdraft
    cases hdraft

/-- What a page of history is read as. -/
theorem history_library {values : List Json} {messages : List Message}
    (h : ∀ value ∈ values, Legible value)
    (hmessages : list? (fun value => (Post.ofJson? value).map Post.toMessage) (.array values) =
      some messages) : (history (library values) reader () "900" "3" 2).1 = .ok messages := by
  rw [history_fst (by decide), send_library, interpret_history rfl (json?_page h), hmessages]

theorem legible_remarked {remark : Json} (h : Legible remark) : Legible (remarked remark) := by
  simp [remarked, h]

theorem unambiguous_remarked {remark : Json} (h : Unambiguous (maxDepth - 2) remark) :
    Unambiguous (maxDepth - 1) (remarked remark) :=
  unambiguous_object_iff.2 ⟨by simpa [maxDepth] using h, by simp⟩

theorem not_proper_remarked {remark : Json} (h : ¬Proper (maxDepth - 2) remark) :
    ¬Proper (maxDepth - 1) (remarked remark) :=
  fun hproper => h ((proper_object_iff.1 hproper).1 ("remark", remark) (by simp))

set_option maxRecDepth 2000 in
theorem history_agrees_of_two_posts :
    (∀ value ∈ [named, nameless], Proper (maxDepth - 1) value) ∧
    List.Forall₂ Announces [write (announcing named), write (announcing nameless)]
      [named, nameless] ∧
    ∃ messages, (history (library [named, nameless]) reader () "900" "3" 2).1 = .ok messages ∧
      messages.map Message.authorName = ["Ally", "bob"] ∧
      List.Forall₂ Forwards [write (announcing named), write (announcing nameless)] messages ∧
      Drops (write (announcing (remarked .unreadable))) := by
  have hproper : ∀ value ∈ [named, nameless], Proper (maxDepth - 1) value := by
    simp [named, nameless, maxDepth]
  have hlegible : ∀ value ∈ [named, nameless], Legible value := by
    simp [named, nameless]
  have htexts : List.Forall₂ Announces [write (announcing named), write (announcing nameless)]
      [named, nameless] :=
    .cons (announces_write (hlegible named (by simp)))
      (.cons (announces_write (hlegible nameless (by simp))) .nil)
  obtain ⟨hread, hrefused, -⟩ :=
    history_agrees_with_gateway (library [named, nameless]) reader () "900" "3" 2
  have hagrees := hread (page [named, nameless]) [named, nameless]
    [write (announcing named), write (announcing nameless)] (by decide) (send_library _) rfl
    (json?_page hlegible) hproper htexts
  have hdropped : Drops (write (announcing (remarked .unreadable))) :=
    hrefused _ _ (announces_write (legible_remarked .unreadable))
      (unambiguous_remarked .unreadable) (not_proper_remarked nofun)
  have hpage : (list? (fun value => (Post.ofJson? value).map Post.toMessage)
      (.array [named, nameless])).map (List.map Message.authorName) = some ["Ally", "bob"] := by
    decide +kernel
  obtain ⟨messages, hmessages, hnames⟩ := Option.map_eq_some_iff.1 hpage
  have hresult := history_library hlegible hmessages
  exact ⟨hproper, htexts, messages, hresult, hnames, (hagrees.1 messages).1 hresult, hdropped⟩

/-- A value in which nothing is repeated comes in with a history only: a page with it is read, but
the gateway drops it. -/
structure OnlyInHistory (value : Json) : Prop where
  unambiguous : Unambiguous (maxDepth - 1) value
  body : (page [value]).json? = some (.array [value])
  read : ∃ message, (history (library [value]) reader () "900" "3" 2).1 = .ok [message]
  announced : Announces (write (announcing value)) value
  dropped : Drops (write (announcing value))

theorem onlyInHistory_remarked {remark : Json} (hlegible : Legible remark)
    (hunambiguous : Unambiguous (maxDepth - 2) remark) (himproper : ¬Proper (maxDepth - 2) remark)
    (hread : ((Post.ofJson? (remarked remark)).map Post.toMessage).isSome = true) :
    OnlyInHistory (remarked remark) := by
  have hvalues : ∀ value ∈ [remarked remark], Legible value := by
    simpa using legible_remarked hlegible
  have hannounces := announces_write (legible_remarked hlegible)
  have hpiece := unambiguous_remarked hunambiguous
  obtain ⟨message, hmessage⟩ := Option.isSome_iff_exists.1 hread
  have hitems : list? (fun value => (Post.ofJson? value).map Post.toMessage)
      (.array [remarked remark]) = some [message] := by
    rw [list?, List.mapM_cons, hmessage]
    rfl
  exact {
    unambiguous := hpiece
    body := json?_page hvalues
    read := ⟨message, history_library hvalues hitems⟩
    announced := hannounces
    dropped := drops_of_not_proper hannounces hpiece (not_proper_remarked himproper) }

/-- Without a double for every number (`huge`), or with an unpaired surrogate in a text, the two
ways do not agree (`OnlyInHistory`). -/
theorem onlyInHistory_of_huge_or_unreadable :
    OnlyInHistory (remarked (.number huge)) ∧ OnlyInHistory (remarked .unreadable) := by
  constructor
  · have hspelt : huge.IsSpelt :=
      ⟨⟨nofun, List.forall_mem_singleton.2 rfl⟩, by decide, nofun⟩
    have hvalue : hasValue huge = false := by decide +kernel
    refine onlyInHistory_remarked (.number hspelt) (.number huge) ?_ (by decide +kernel)
    intro hproper
    cases hproper with
    | number hsome => exact Bool.noConfusion (hvalue.symm.trans hsome)
  · exact onlyInHistory_remarked .unreadable .unreadable nofun (by decide +kernel)

end Scene

end Gadfly.Discord
