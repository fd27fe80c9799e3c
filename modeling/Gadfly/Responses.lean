/-
  Gadfly.Responses

  The completion service on the web.

  A question is posted to one address (`draft`) and answered by a response with status 200 whose
  body is the JSON form of a `Response`. Anything else is a failure, told apart by the status
  (`refusal`), by the body, or by why there was no response (`interpret`). `ask` is the operation
  `create` and `probe` is `health_check`.

  Main definitions: `Responses.Account`, `Responses.draft`, `Responses.interpret`,
  `Responses.ask`, `Responses.probe`, `Responses.service`.
-/

import Gadfly.Completion
import Gadfly.Fault
import Gadfly.Http.Exchange
import Gadfly.Stage

namespace Gadfly.Responses

/-- Where the service is, and the key to it (`OpenAiResponsesService`). -/
structure Account where
  name : String
  /-- The address, without slashes at the end. -/
  base : String
  key : String

/-- An account at an address, without the slashes at its end. -/
def Account.at (name address key : String) : Account :=
  ⟨name, Url.trimSlashes address, key⟩

/-- The account of the settings. -/
def Account.openai (address key : String) : Account :=
  .at "openai" address key

/-- The credential as it is sent, after the word `Bearer`. -/
def Account.authorization (account : Account) : String :=
  "Bearer " ++ account.key

/-! ## Questions -/

/-- What is posted for a question (`request_body`). -/
def question (request : Request) : Json :=
  .object [("model", .string request.model), ("input", .string request.prompt)]

/-- The request for a question. -/
def draft (account : Account) (request : Request) : Except Http.Failure Http.Request :=
  Http.draft .post (account.base ++ "/responses") [] account.authorization (some (question request))

/-- What a status other than 200 means (`status_error`). -/
def refusal (status : Nat) (body : String) : ServiceFault :=
  if status = 429 then .rateLimited 5
  else if status = 401 ∨ status = 403 then
    .unauthorized "Invalid API key or insufficient permissions"
  else .refused status body

/-- What a response means, or that there was none: a `Response` only of status 200 with a body that
can be read. -/
def interpret : Except Http.Failure Http.Answer → Except ServiceFault Response
  | .error (.late url) => .error (.timedOut (Http.Failure.late url).message)
  | .error failure => .error (.unreachable failure.message)
  | .ok answer =>
    if answer.status ≠ 200 then .error (refusal answer.status answer.text)
    else
      match answer.json?.bind Response.ofJson? with
      | some response => .ok response
      | none => .error (.refused 200 "Failed to parse response: error decoding response body")

/-- What is reported about a response: one with a status other than 200. -/
def notices : Except Http.Failure Http.Answer → List Notice
  | .ok answer =>
    if answer.status ≠ 200 then [.serviceRefused answer.status answer.text] else []
  | .error _ => []

/-- Asks a question (`create`). -/
def ask {σ : Type} (network : Http.Network σ) (account : Account) (s : σ) (request : Request) :
    Except ServiceFault Response × List Notice × σ :=
  let (answer, s) := Http.send network s (draft account request)
  (interpret answer, notices answer, s)

/-! ## Health -/

/-- The request that only looks whether the service is there. -/
def probeDraft (account : Account) : Except Http.Failure Http.Request :=
  Http.draft .get (account.base ++ "/models") [] account.authorization none

/-- What the response to it means. -/
def interpretProbe : Except Http.Failure Http.Answer → Except ServiceFault Bool
  | .ok answer => .ok answer.isSuccess
  | .error failure => .error (.unreachable failure.message)

/-- Looks whether the service is there (`health_check`). -/
def probe {σ : Type} (network : Http.Network σ) (account : Account) (s : σ) :
    Except ServiceFault Bool × σ :=
  let (answer, s) := Http.send network s (probeDraft account)
  (interpretProbe answer, s)

/-- The service as a `Service`: `ask` with its notices. -/
def service {σ : Type} (network : Http.Network σ) (account : Account) : Service σ where
  complete s request :=
    let (result, notices, s) := ask network account s request
    (some result, notices, s)

end Gadfly.Responses
