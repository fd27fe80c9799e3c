/-
  Gadfly.Http.Exchange

  Requests and responses.

  A `Request` is put together by `draft`, which fails when its address or its credential cannot be
  sent. `send` hands it to a `Network`, which is whatever answers requests, with a state of its
  own: an `Answer`, or the `Failure` that there is none. The head of an answer can arrive and its
  `Body` break off; the bytes of a body need not be UTF-8, and `Answer.text` and `Answer.json?`
  say what is made of them.

  A `Server` is a network that follows a script of `Reply`s and can be reached under one address
  only.

  Main definitions: `Http.Method`, `Http.Request`, `Http.Failure`, `Http.draft`, `Http.Body`,
  `Http.Answer`, `Http.Answer.text`, `Http.Answer.json?`, `Http.Network`, `Http.send`,
  `Http.Reply`, `Http.Server`, `Http.serverNetwork`.
-/

import Gadfly.Http.Url
import Gadfly.Json.Printer
import Gadfly.Json.Reader

namespace Gadfly.Http

open Gadfly.Text

/-! ## Requests -/

/-- What a request does. -/
inductive Method where
  | get
  | post
  deriving Repr, DecidableEq

/-- The word for a method. -/
def Method.name : Method → String
  | .get => "GET"
  | .post => "POST"

/-- A request that can be sent. -/
structure Request where
  method : Method
  url : Url
  /-- The credential. -/
  authorization : String
  /-- What is sent along, as JSON text. -/
  body : Option Json

/-- Why there is no response. -/
inductive Failure where
  /-- The request cannot be put together; the address, if that is what is wrong. -/
  | unsendable (url : Option Url)
  /-- The connection could not be made or was lost. -/
  | lost (url : Url)
  /-- No answer came in time. -/
  | late (url : Url)
  deriving Repr, DecidableEq

/-- The text of a failure. -/
def Failure.message : Failure → String
  | .unsendable none => "builder error"
  | .unsendable (some url) => "builder error for url (" ++ url.write ++ ")"
  | .lost url | .late url => "error sending request for url (" ++ url.write ++ ")"

/-- The characters that a credential may hold: tabs, and all but control characters. -/
def isHeaderChar (c : Char) : Bool :=
  c = '\t' || (0x20 ≤ c.toNat && c.toNat ≠ 0x7F)

/-- The most bytes of an address that can be sent. -/
def maxAddress : Nat := 65534

/-- Whether an address can be asked for: it is on the web, not too long, and its host does not
hold a character that only a lenient reader takes for a part of it. -/
def isSendable (url : Url) : Bool :=
  (url.scheme = "http" || url.scheme = "https") && url.write.utf8ByteSize ≤ maxAddress &&
    !url.authority.any fun authority =>
      authority.host.write.toList.any ("\"`\x7b\x7d".toList.contains ·)

/-- Puts a `Request` together. An address without a host is refused before the credential is looked
at, an address that cannot be asked for (`isSendable`) after. Name and password of an address are
not sent as a part of it. -/
def draft (method : Method) (address : String) (parameters : List (String × String))
    (authorization : String) (body : Option Json) : Except Failure Request :=
  match Url.parse? address with
  | none => .error (.unsendable none)
  | some url =>
    if !url.hasHost then .error (.unsendable (some url))
    else if !authorization.toList.all isHeaderChar then .error (.unsendable none)
    else
      let url := url.withoutUser
      let url := if parameters.isEmpty then url else url.withQuery parameters
      if isSendable url then .ok ⟨method, url, authorization, body⟩
      else .error (.unsendable (some url))

/-! ## Responses -/

/-- What comes after the head of a response. -/
inductive Body where
  | whole (bytes : List UInt8)
  /-- The connection is lost, or the time is up, before all of it has come. -/
  | broken
  deriving Repr, DecidableEq

/-- The body that spells a text. -/
def Body.ofText (text : String) : Body :=
  .whole (Utf8.encode text)

instance : Coe String Body := ⟨Body.ofText⟩

/-- A response. -/
structure Answer where
  status : Nat
  body : Body
  deriving Repr, DecidableEq

namespace Answer

/-- Whether a response may have a body at all. -/
def hasBody (answer : Answer) : Bool :=
  answer.status ≠ 101 && answer.status ≠ 204 && answer.status ≠ 304

/-- Whether the status ends the wait for a response: it has three digits, and does not only say
that there is more to come. -/
def isFinal (answer : Answer) : Bool :=
  answer.status = 101 || (200 ≤ answer.status && answer.status ≤ 999)

/-- The body as a text, with U+FFFD for what is not UTF-8; empty if it breaks off. -/
def text (answer : Answer) : String :=
  match answer.body with
  | .whole bytes => if answer.hasBody then Utf8.decodeLossy bytes else ""
  | .broken => ""

/-- The body as a JSON value (`Json.readBytes?`). -/
def json? (answer : Answer) : Option Json :=
  match answer.body with
  | .whole bytes => if answer.hasBody then Json.readBytes? bytes else none
  | .broken => none

/-- Whether the status is one of success. -/
def isSuccess (answer : Answer) : Bool :=
  200 ≤ answer.status && answer.status < 300

end Answer

/-- What answers requests, with a state of its own. -/
abbrev Network (σ : Type) := σ → Request → Except Failure Answer × σ

/-- Puts a request together by `draft` and sends it. -/
def send {σ : Type} (network : Network σ) (s : σ) :
    Except Failure Request → Except Failure Answer × σ
  | .ok request => network s request
  | .error failure => (.error failure, s)

/-! ## Scripted servers -/

/-- What a server does with a request. -/
inductive Reply where
  | answer (given : Answer)
  /-- It never answers. -/
  | silence
  /-- It closes the connection. -/
  | hangUp

/-- A server that follows a script. -/
structure Server where
  /-- Scheme, host and endpoint under which it can be reached. -/
  scheme : String
  host : Host
  endpoint : Option Nat
  /-- What it does with the requests to come. -/
  replies : List Reply
  /-- The requests that have come, in order. -/
  received : List Request

/-- The answer of a server whose script has ended. -/
def exhausted : Answer := ⟨500, "script exhausted"⟩

/-- What becomes of a request that meets a reply. After a reply that is not final the server has
nothing more to say. -/
def Reply.result (reply : Reply) (url : Url) : Except Failure Answer :=
  match reply with
  | .answer given => if given.isFinal then .ok given else .error (.lost url)
  | .silence => .error (.late url)
  | .hangUp => .error (.lost url)

namespace Server

/-- Whether an address leads to the server. -/
def serves (server : Server) (url : Url) : Bool :=
  url.scheme == server.scheme && url.authority.any fun authority =>
    authority.host == server.host && authority.endpoint == server.endpoint

/-- Takes a `Request`. One for another host (`serves`) gets nowhere. -/
def take (server : Server) (request : Request) : Except Failure Answer × Server :=
  if server.serves request.url then
    let noted := { server with received := server.received ++ [request] }
    match server.replies with
    | [] => (.ok exhausted, noted)
    | reply :: rest => (reply.result request.url, { noted with replies := rest })
  else (.error (.lost request.url), server)

/-- Forgets the requests that have come. -/
def cleared (server : Server) : Server :=
  { server with received := [] }

end Server

/-- A network with a scripted server in it and nothing else. -/
def serverNetwork : Network Server := Server.take

/-- A network in which nobody answers. -/
def deadNetwork : Network Unit := fun s request => (.error (.lost request.url), s)

end Gadfly.Http
