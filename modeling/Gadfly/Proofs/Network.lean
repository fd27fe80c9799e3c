/-
  Gadfly.Proofs.Network

  Networks that make nothing of credentials.

  Whether `Http.draft` can put a request together depends on its credential only insofar as all
  characters of it can be sent. A network is `Blind` when its answers do not depend on credentials
  either, nor on any that it saw before; a server that follows a script is
  (`blind_serverNetwork`). Calls that are made one after the other (`inTurn`) through a blind
  network come to the same whatever the credential is, and the requests, which a `recording`
  network keeps, are the same but for it (`Request.unsigned`).

  Main definitions: `Http.Request.unsigned`, `Http.Network.Blind`, `Http.Network.recording`,
  `Http.Signed`, `Http.inTurn`.
  Main statements: `Http.draft_map_unsigned`, `Http.authorization_of_draft`,
  `Http.Network.Blind.send`, `Http.Network.Blind.recording`, `Http.blind_serverNetwork`,
  `Http.inTurn_agree`.
-/

import Mathlib.Tactic.SplitIfs
import Gadfly.Http.Exchange

namespace Gadfly.Http

variable {σ : Type} {network : Network σ} {Alike : σ → σ → Prop} {s t : σ}

/-! ## Requests without their credentials -/

/-- A request but for its credential. -/
def Request.unsigned (request : Request) : Request :=
  { request with authorization := "" }

/-- With credentials that can be sent, requests that `draft` makes are the same but for these, or
fail in the same way. -/
theorem draft_map_unsigned {first second : String}
    (hfirst : first.toList.all isHeaderChar = true)
    (hsecond : second.toList.all isHeaderChar = true) (method : Method) (address : String)
    (parameters : List (String × String)) (body : Option Json) :
    (draft method address parameters first body).map Request.unsigned =
      (draft method address parameters second body).map Request.unsigned := by
  rw [draft, draft, hfirst, hsecond]
  cases Url.parse? address with
  | none => rfl
  | some url =>
    simp only [Bool.not_true, Bool.false_eq_true, if_false]
    split
    · rfl
    · -- Whatever has become of the address, it can be asked for or not.
      generalize (if parameters.isEmpty = true then url.withoutUser
        else url.withoutUser.withQuery parameters) = target
      split <;> rfl

/-- A request that `draft` can put together carries the credential that it was given. -/
theorem authorization_of_draft {method : Method} {address authorization : String}
    {parameters : List (String × String)} {body : Option Json} {request : Request}
    (h : draft method address parameters authorization body = .ok request) :
    request.authorization = authorization := by
  rw [draft] at h
  cases hurl : Url.parse? address with
  | none =>
    rw [hurl] at h
    cases h
  | some url =>
    rw [hurl] at h
    simp only at h
    generalize (if parameters.isEmpty = true then url.withoutUser
      else url.withoutUser.withQuery parameters) = target at h
    split_ifs at h
    cases h
    rfl

/-! ## Blind networks -/

/-- A network answers requests that are the same but for the credential in the same way, as long
as it is in states that are alike, and then its states stay alike. -/
structure Network.Blind (network : Network σ) (Alike : σ → σ → Prop) : Prop where
  refl : ∀ s, Alike s s
  answer_eq : ∀ {s t : σ} {first second : Request}, Alike s t →
    first.unsigned = second.unsigned → (network s first).1 = (network t second).1
  alike : ∀ {s t : σ} {first second : Request}, Alike s t →
    first.unsigned = second.unsigned → Alike (network s first).2 (network t second).2

/-- Two computations give the same, and leave states that are alike. -/
def Agree (Alike : σ → σ → Prop) {α : Type} (first second : α × σ) : Prop :=
  first.1 = second.1 ∧ Alike first.2 second.2

theorem Agree.map {α β : Type} {first second : α × σ} (h : Agree Alike first second) (f : α → β) :
    Agree Alike (f first.1, first.2) (f second.1, second.2) :=
  ⟨congrArg f h.1, h.2⟩

theorem Network.Blind.send (h : network.Blind Alike) (hs : Alike s t)
    {first second : Except Failure Request}
    (hsame : first.map Request.unsigned = second.map Request.unsigned) :
    Agree Alike (Http.send network s first) (Http.send network t second) := by
  -- Requests that are the same but for the credential are put together, or fail, in the same way.
  cases first with
  | error failure =>
    cases second with
    | error other =>
      obtain rfl : failure = other := Except.error.inj hsame
      exact ⟨rfl, hs⟩
    | ok request => cases hsame
  | ok request =>
    cases second with
    | error failure => cases hsame
    | ok other =>
      have hrequest : request.unsigned = other.unsigned := Except.ok.inj hsame
      exact ⟨h.answer_eq hs hrequest, h.alike hs hrequest⟩

/-- A network that also keeps the requests in the order in which they are made. -/
def Network.recording (network : Network σ) : Network (List Request × σ) :=
  fun (requests, s) request =>
    let (answer, s) := network s request
    (answer, (requests ++ [request], s))

/-- The same requests were kept but for the credentials, and besides the states are alike. -/
def RecordedAlike (Alike : σ → σ → Prop) (first second : List Request × σ) : Prop :=
  first.1.map Request.unsigned = second.1.map Request.unsigned ∧ Alike first.2 second.2

theorem Network.Blind.recording (h : network.Blind Alike) :
    network.recording.Blind (RecordedAlike Alike) where
  refl state := ⟨rfl, h.refl state.2⟩
  answer_eq halike hrequest := h.answer_eq halike.2 hrequest
  alike halike hrequest := by
    refine ⟨?_, h.alike halike.2 hrequest⟩
    simp only [Network.recording, List.map_append, List.map_singleton, halike.1, hrequest]

/-- All requests carry a credential. -/
def Signed (credential : String) (requests : List Request) : Prop :=
  ∀ request ∈ requests, request.authorization = credential

theorem signed_nil (credential : String) : Signed credential [] :=
  List.forall_mem_nil _

theorem Signed.send {credential : String} {state : List Request × σ}
    (h : Signed credential state.1) {drafted : Except Failure Request}
    (hdrafted : ∀ request, drafted = .ok request → request.authorization = credential) :
    Signed credential (Http.send network.recording state drafted).2.1 := by
  cases drafted with
  | error failure => exact h
  | ok request =>
    exact List.forall_mem_append.2 ⟨h, List.forall_mem_singleton.2 (hdrafted request rfl)⟩

/-! ## Servers with a script -/

/-- A server but for the credentials that it has seen. -/
def Server.unsigned (server : Server) : Server :=
  { server with received := server.received.map Request.unsigned }

@[simp] theorem Request.unsigned_unsigned (request : Request) :
    request.unsigned.unsigned = request.unsigned := rfl

@[simp] theorem Server.unsigned_unsigned (server : Server) :
    server.unsigned.unsigned = server.unsigned := by
  simp [unsigned]

/-- A server takes a request as if neither it nor those before it had had credentials. -/
theorem Server.take_unsigned (server : Server) (request : Request) :
    (server.unsigned.take request.unsigned).1 = (server.take request).1 ∧
      (server.unsigned.take request.unsigned).2.unsigned = (server.take request).2.unsigned := by
  have hserves : server.unsigned.serves request.unsigned.url = server.serves request.url := rfl
  have hreplies : server.unsigned.replies = server.replies := rfl
  rw [take, take, hserves, hreplies]
  split
  · -- The script goes on, and the request is noted.
    split <;> simp [unsigned, Request.unsigned]
  · exact ⟨rfl, server.unsigned_unsigned⟩

/-- What a script says does not depend on credentials: `serverNetwork` is `Blind`. -/
theorem blind_serverNetwork : serverNetwork.Blind fun s t => s.unsigned = t.unsigned where
  refl _ := rfl
  answer_eq {s t first second} hs hrequest := by
    rw [serverNetwork, ← (s.take_unsigned first).1, ← (t.take_unsigned second).1, hs, hrequest]
  alike {s t first second} hs hrequest := by
    rw [serverNetwork, ← (s.take_unsigned first).2, ← (t.take_unsigned second).2, hs, hrequest]

/-! ## Calls in turn -/

/-- Makes calls one after the other, each with a result of its own kind. -/
def inTurn {κ : Type} {ρ : κ → Type} (make : σ → (call : κ) → ρ call × σ) (s : σ) :
    List κ → List ((call : κ) × ρ call) × σ
  | [] => ([], s)
  | call :: rest =>
    let (result, s) := make s call
    let (results, s) := inTurn make s rest
    (⟨call, result⟩ :: results, s)

theorem inTurn_cons {κ : Type} {ρ : κ → Type} (make : σ → (call : κ) → ρ call × σ) (s : σ)
    (call : κ) (rest : List κ) :
    inTurn make s (call :: rest) =
      (⟨call, (make s call).1⟩ :: (inTurn make (make s call).2 rest).1,
        (inTurn make (make s call).2 rest).2) := rfl

/-- What each call keeps is kept by calls in turn. -/
theorem inTurn_keeps {κ : Type} {ρ : κ → Type} {make : σ → (call : κ) → ρ call × σ}
    {P : σ → Prop} (h : ∀ {s}, P s → ∀ call, P (make s call).2) (hs : P s) (calls : List κ) :
    P (inTurn make s calls).2 := by
  induction calls generalizing s with
  | nil => exact hs
  | cons call rest ih => exact ih (h hs call)

/-- Calls that agree one by one (`Agree`) agree in turn (`inTurn`). -/
theorem inTurn_agree {κ : Type} {ρ : κ → Type} {make other : σ → (call : κ) → ρ call × σ}
    (h : ∀ {s t}, Alike s t → ∀ call, Agree Alike (make s call) (other t call))
    (hs : Alike s t) (calls : List κ) :
    Agree Alike (inTurn make s calls) (inTurn other t calls) := by
  induction calls generalizing s t with
  | nil => exact ⟨rfl, hs⟩
  | cons call rest ih =>
    obtain ⟨hresult, hstate⟩ := h hs call
    obtain ⟨hresults, hlast⟩ := ih hstate
    refine ⟨?_, hlast⟩
    rw [inTurn_cons, inTurn_cons]
    simp only [hresult, hresults]

end Gadfly.Http
