/-
  Gadfly.Proofs.Schedule

  Messages handled at the same time.

  In a `World` a loop takes in the events and sets a `Worker` on each message. The workers share
  the outside: between two calls of one of them any number of calls by others, or by the loop, may
  come. A schedule says who makes the next `Move`, and every order of moves in which each is
  possible is a schedule (`World.follow?`).

  A worker whose partner breaks off is counted as such (`World.broken`) when the loop looks at its
  end. This assumes that a panic while a message is handled unwinds, and ends that worker and
  nothing else: where the program is built to abort on a panic, it ends at that point together
  with all workers, and nothing here speaks of it.

  The loop of the bot looks at the ended workers only when an event has come or after the last
  one; here it may do so at any time, which allows for more schedules, not fewer. Handling the
  messages one after the other, as `serve` does, is one of the schedules (`World.reaches_serve`).

  Main definitions: `Worker`, `World`, `Move`, `World.move?`, `World.follow?`.
  Main statements: `World.moved_of_move?`, `World.exists_moved`, `World.follow?_induction`,
  `World.reaches_serve`.
-/

import Mathlib.Algebra.Ring.Nat
import Gadfly.Serve
import Gadfly.Proofs.Exchange

namespace Gadfly.Schedule

open Dialogue

/-- A message that is being handled. -/
structure Worker where
  message : Message
  /-- What is left of the handling; nothing once it has been broken off. -/
  rest : Option (Dialogue Outcome)
  /-- Whether the loop has looked at its end. -/
  joined : Bool

namespace Worker

/-- A worker that has not begun. -/
def start (router : Router) (message : Message) : Worker :=
  ⟨message, some (router.handle message), false⟩

/-- Whether nothing is left to be done. -/
def ended (worker : Worker) : Bool :=
  match worker.rest with
  | some (.ask ..) => false
  | _ => true

/-- What has come of the handling. -/
def outcome? (worker : Worker) : Option Outcome :=
  match worker.rest with
  | some (.done outcome) => some outcome
  | _ => none

/-- How often the worker has been counted as broken off. -/
def timesCounted (worker : Worker) : Nat :=
  if worker.joined && worker.rest.isNone then 1 else 0

/-- A worker whose end the loop has looked at. -/
def atEnd (message : Message) (result : Option Outcome) : Worker :=
  ⟨message, result.map .done, true⟩

theorem outcome?_atEnd (message : Message) (result : Option Outcome) :
    (atEnd message result).outcome? = result := by
  cases result <;> rfl

end Worker

/-- Who makes a call. -/
inductive Party where
  | loop
  | worker (index : Nat)
  deriving Repr, DecidableEq

/-- The exchanges of one party among those of all. -/
def Party.share (party : Party) (log : List (Party × Exchange)) : List Exchange :=
  log.filterMap fun entry => if entry.1 = party then some entry.2 else none

@[simp] theorem Party.share_append_singleton (party other : Party)
    (log : List (Party × Exchange)) (e : Exchange) :
    party.share (log ++ [(other, e)]) =
      party.share log ++ if other = party then [e] else [] := by
  rw [share, List.filterMap_append]
  by_cases h : other = party
  · simp [share, h]
  · simp [share, h]

theorem Party.mem_share {party : Party} {log : List (Party × Exchange)} {e : Exchange} :
    e ∈ party.share log ↔ (party, e) ∈ log := by
  rw [share, List.mem_filterMap]
  constructor
  · rintro ⟨⟨other, e'⟩, hmem, hentry⟩
    split at hentry
    · rename_i hparty
      obtain rfl := Option.some.inj hentry
      exact hparty ▸ hmem
    · cases hentry
  · intro hmem
    exact ⟨(party, e), hmem, if_pos rfl⟩

/-- The loop, the workers in the order in which they were set to work, and the outside, which all of
them share. -/
structure World (σ : Type) where
  /-- The events that have not been taken in. -/
  inbox : List Event
  /-- Whether the end of the events has been noticed. -/
  closed : Bool
  workers : List Worker
  outside : σ
  /-- All exchanges so far, each with the party that made the call. -/
  log : List (Party × Exchange)
  /-- The workers that were counted as broken off. -/
  broken : List Nat

/-- What may happen next, to the loop or to one of the workers. -/
inductive Move where
  /-- The loop takes in an event, or notices the end of the events. -/
  | take
  /-- A worker makes its next call. -/
  | advance (index : Nat)
  /-- The loop looks at a worker that has ended. -/
  | join (index : Nat)
  deriving Repr, DecidableEq

namespace World

variable {σ : Type}

/-- Before the first event. -/
def start (events : List Event) (s : σ) : World σ :=
  ⟨events, false, [], s, [], []⟩

/-- How many workers the loop has not seen the end of. -/
def inFlight (w : World σ) : Nat :=
  w.workers.countP fun worker => !worker.joined

/-- A party makes a call. -/
def exchange (partner : Partner σ) (w : World σ) (party : Party) (call : Call) : World σ :=
  { w with
    outside := (partner w.outside call).2
    log := w.log ++ [(party, ⟨call, (partner w.outside call).1⟩)] }

section Exchange

variable (partner : Partner σ) (w : World σ) (party : Party) (call : Call)

@[simp] theorem exchange_inbox : (w.exchange partner party call).inbox = w.inbox := rfl

@[simp] theorem exchange_closed : (w.exchange partner party call).closed = w.closed := rfl

@[simp] theorem exchange_workers : (w.exchange partner party call).workers = w.workers := rfl

@[simp] theorem exchange_broken : (w.exchange partner party call).broken = w.broken := rfl

/-- A call counts for the party that makes it. -/
@[simp] theorem share_exchange (other : Party) :
    other.share (w.exchange partner party call).log =
      other.share w.log ++ if party = other then [⟨call, (partner w.outside call).1⟩] else [] :=
  Party.share_append_singleton other party w.log _

end Exchange

/-- Makes a `Move`, if it is possible. -/
def move? (router : Router) (partner : Partner σ) (w : World σ) : Move → Option (World σ)
  | .take =>
    match w.inbox with
    | .ok message :: inbox =>
      some { w with inbox := inbox, workers := w.workers ++ [.start router message] }
    | .error fault :: inbox =>
      some ({ w with inbox := inbox }.exchange partner .loop (.report (.transportFailed fault)))
    | [] =>
      if w.closed then none
      else
        some ({ w with closed := true }.exchange partner .loop
          (.report (.inboundClosed w.inFlight)))
  | .advance index =>
    match w.workers[index]? with
    | some ⟨message, some (.ask call next), joined⟩ =>
      let worker := ⟨message, (partner w.outside call).1.map next, joined⟩
      some ({ w with workers := w.workers.set index worker }.exchange partner (.worker index) call)
    | _ => none
  | .join index =>
    match w.workers[index]? with
    | some worker =>
      if worker.ended && !worker.joined then
        some { w with
          workers := w.workers.set index { worker with joined := true }
          broken := if worker.rest.isNone then w.broken ++ [index] else w.broken }
      else none
    | none => none

/-- Makes the moves of a schedule, if they are all possible (`move?`). -/
def follow? (router : Router) (partner : Partner σ) (w : World σ) : List Move → Option (World σ)
  | [] => some w
  | move :: schedule => (w.move? router partner move).bind (follow? router partner · schedule)

/-- Whether nothing is left to be done by anybody. -/
def finished (w : World σ) : Bool :=
  w.closed && w.workers.all Worker.joined

/-- What has come of the messages. -/
def outcomes (w : World σ) : List (Option Outcome) :=
  w.workers.map Worker.outcome?

variable {router : Router} {partner : Partner σ} {w w' : World σ}

/-! ## What a move does -/

/-- The moves that are possible, each with what it leads to. -/
inductive Moved (router : Router) (partner : Partner σ) (w : World σ) : Move → World σ → Prop
  | started {message : Message} {inbox : List Event} (hinbox : w.inbox = .ok message :: inbox) :
      Moved router partner w .take
        { w with inbox := inbox, workers := w.workers ++ [.start router message] }
  | reported {fault : TransportFault} {inbox : List Event}
      (hinbox : w.inbox = .error fault :: inbox) :
      Moved router partner w .take
        ({ w with inbox := inbox }.exchange partner .loop (.report (.transportFailed fault)))
  | closed (hinbox : w.inbox = []) (hclosed : w.closed = false) :
      Moved router partner w .take
        ({ w with closed := true }.exchange partner .loop (.report (.inboundClosed w.inFlight)))
  | advanced {index : Nat} {worker : Worker} {call : Call}
      {next : call.Answer → Dialogue Outcome} (hworker : w.workers[index]? = some worker)
      (hrest : worker.rest = some (.ask call next)) :
      Moved router partner w (.advance index)
        ({ w with
            workers := w.workers.set index
              { worker with rest := (partner w.outside call).1.map next } }.exchange partner
          (.worker index) call)
  | joined {index : Nat} {worker : Worker} (hworker : w.workers[index]? = some worker)
      (hended : worker.ended = true) (hjoined : worker.joined = false) :
      Moved router partner w (.join index)
        { w with
          workers := w.workers.set index { worker with joined := true }
          broken := if worker.rest.isNone then w.broken ++ [index] else w.broken }

theorem moved_of_move? {move : Move} (h : w.move? router partner move = some w') :
    Moved router partner w move w' := by
  cases move with
  | take =>
    rw [move?] at h
    -- The first event is a message, or a failure, or there is none.
    split at h
    · rename_i message inbox hinbox
      obtain rfl := Option.some.inj h
      exact .started hinbox
    · rename_i fault inbox hinbox
      obtain rfl := Option.some.inj h
      exact .reported hinbox
    · rename_i hinbox
      split at h
      · cases h
      · rename_i hclosed
        obtain rfl := Option.some.inj h
        exact .closed hinbox (eq_false_of_ne_true hclosed)
  | advance index =>
    rw [move?] at h
    split at h
    · rename_i hworker
      obtain rfl := Option.some.inj h
      exact .advanced hworker rfl
    · cases h
  | join index =>
    rw [move?] at h
    split at h
    · rename_i worker hworker
      split at h
      · rename_i hready
        obtain ⟨hended, hjoined⟩ := Bool.and_eq_true_iff.1 hready
        obtain rfl := Option.some.inj h
        exact .joined hworker hended (Bool.not_eq_true' _ ▸ hjoined)
      · cases h
    · cases h

theorem move?_of_moved {move : Move} (h : Moved router partner w move w') :
    w.move? router partner move = some w' := by
  cases h with
  | started hinbox => rw [move?, hinbox]
  | reported hinbox => rw [move?, hinbox]
  | closed hinbox hclosed =>
    rw [move?, hinbox]
    simp only [hclosed, Bool.false_eq_true, if_false]
  | @advanced index worker call next hworker hrest =>
    obtain ⟨message, rest, joined⟩ := worker
    obtain rfl : rest = some (.ask call next) := hrest
    rw [move?, hworker]
  | joined hworker hended hjoined =>
    rw [move?, hworker]
    simp only [hended, hjoined, Bool.not_false, Bool.and_self, if_true]

/-- A move is possible (`Moved`) until all is done (`finished`). -/
theorem exists_moved (h : w.finished = false) : ∃ move w', Moved router partner w move w' := by
  rcases hclosed : w.closed with _ | _
  · rcases hinbox : w.inbox with _ | ⟨fault | message, inbox⟩
    · exact ⟨_, _, .closed hinbox hclosed⟩
    · exact ⟨_, _, .reported hinbox⟩
    · exact ⟨_, _, .started hinbox⟩
  · rw [finished, hclosed, Bool.true_and, List.all_eq_false] at h
    obtain ⟨worker, hmem, hjoined⟩ := h
    replace hjoined := eq_false_of_ne_true hjoined
    obtain ⟨index, hindex⟩ := List.getElem?_of_mem hmem
    -- A worker that the loop has not seen the end of has ended or can go on.
    rcases hrest : worker.rest with _ | outcome | ⟨call, next⟩
    · exact ⟨_, _, .joined hindex (by rw [Worker.ended, hrest]) hjoined⟩
    · exact ⟨_, _, .joined hindex (by rw [Worker.ended, hrest]) hjoined⟩
    · exact ⟨_, _, .advanced hindex hrest⟩

/-- What every move (`Moved`) preserves holds after every schedule. -/
theorem follow?_induction {P : World σ → Prop}
    (hmove : ∀ w move w', Moved router partner w move w' → P w → P w')
    {schedule : List Move} (h : w.follow? router partner schedule = some w') (hw : P w) :
    P w' := by
  induction schedule generalizing w with
  | nil =>
    obtain rfl := Option.some.inj h
    exact hw
  | cons move schedule ih =>
    obtain ⟨next, hnext, hrest⟩ := Option.bind_eq_some_iff.1 h
    exact ih hrest (hmove _ _ _ (moved_of_move? hnext) hw)

/-! ## One message after the other -/

/-- Some schedule leads from one world to another. -/
def Reaches (router : Router) (partner : Partner σ) (w w' : World σ) : Prop :=
  ∃ schedule, w.follow? router partner schedule = some w'

theorem Reaches.refl (w : World σ) : Reaches router partner w w :=
  ⟨[], rfl⟩

theorem Reaches.head {move : Move} {w'' : World σ} (hmoved : Moved router partner w move w')
    (h : Reaches router partner w' w'') : Reaches router partner w w'' := by
  obtain ⟨schedule, hschedule⟩ := h
  refine ⟨move :: schedule, ?_⟩
  rw [follow?, move?_of_moved hmoved, Option.bind_some, hschedule]

theorem Reaches.trans {w'' : World σ} (h : Reaches router partner w w')
    (h' : Reaches router partner w' w'') : Reaches router partner w w'' := by
  obtain ⟨schedule, hschedule⟩ := h
  induction schedule generalizing w with
  | nil =>
    obtain rfl := Option.some.inj hschedule
    exact h'
  | cons move schedule ih =>
    obtain ⟨next, hnext, hrest⟩ := Option.bind_eq_some_iff.1 hschedule
    exact .head (moved_of_move? hnext) (ih hrest)

/-- The loop can take in all events before any worker begins. -/
theorem reaches_taken (hreports : partner.TakesReports) (inbox : List Event) (w : World σ)
    (hinbox : w.inbox = inbox) (hclosed : w.closed = false) :
    ∃ trace t,
      Held partner
        (Serve.reportAll (Serve.failures inbox) (w.inFlight + (Serve.messages inbox).length))
        w.outside trace (some ()) t ∧
      Reaches router partner w
        { w with
          inbox := []
          closed := true
          workers := w.workers ++ (Serve.messages inbox).map (.start router)
          outside := t
          log := w.log ++ trace.map (Prod.mk .loop) } := by
  induction inbox generalizing w with
  | nil =>
    -- Only the end of the events is left to be noticed.
    obtain ⟨t, ht⟩ := hreports w.outside (.inboundClosed w.inFlight)
    refine ⟨_, t, held_call ht, .head (.closed hinbox hclosed) ?_⟩
    simp only [exchange, ht, hinbox, Serve.messages, List.filterMap_nil, List.map_nil,
      List.map_cons, List.append_nil]
    exact .refl _
  | cons event inbox ih =>
    cases event with
    | error fault =>
      obtain ⟨t, ht⟩ := hreports w.outside (.transportFailed fault)
      obtain ⟨trace, u, hheld, hreaches⟩ :=
        ih ({ w with inbox := inbox }.exchange partner .loop (.report (.transportFailed fault))) rfl
          hclosed
      simp only [exchange, ht, List.append_assoc] at hheld hreaches
      refine ⟨_, u, (held_call ht).bind hheld, .head (.reported hinbox) ?_⟩
      simp only [exchange, ht]
      exact hreaches
    | ok message =>
      obtain ⟨trace, u, hheld, hreaches⟩ :=
        ih { w with inbox := inbox, workers := w.workers ++ [.start router message] } rfl hclosed
      refine ⟨trace, u, ?_, .head (.started hinbox) ?_⟩
      -- The new worker counts as one in flight, as its message did before.
      · simp only [inFlight, List.countP_append, Worker.start] at hheld
        rw [Nat.add_right_comm] at hheld
        exact hheld
      · simp only [List.append_assoc] at hreaches
        exact hreaches

/-- A worker can be let to its end while nobody else moves. -/
theorem reaches_joined (router : Router) (message : Message) (d : Dialogue Outcome) (index : Nat)
    {trace : List Exchange} {result : Option Outcome} (w : World σ) {t : σ}
    (hworker : w.workers[index]? = some ⟨message, some d, false⟩)
    (hheld : Held partner d w.outside trace result t) :
    Reaches router partner w
      { w with
        workers := w.workers.set index (.atEnd message result)
        outside := t
        log := w.log ++ trace.map (Prod.mk (.worker index))
        broken := if result.isNone then w.broken ++ [index] else w.broken } := by
  -- Along the dialogue: each call is a move of the worker, and at its end the loop looks at it.
  induction d generalizing w trace with
  | done outcome =>
    obtain ⟨rfl, hrun⟩ := hheld
    obtain ⟨rfl, rfl⟩ := Prod.mk.inj hrun
    refine .head (.joined hworker rfl rfl) ?_
    simp only [exchanges_done, List.map_nil, List.append_nil]
    exact .refl _
  | ask call next ih =>
    refine .head (.advanced hworker rfl) ?_
    obtain ⟨rfl, hrun⟩ := hheld
    rw [exchanges_ask]
    rw [run_ask] at hrun
    have hinside : index < w.workers.length := (List.getElem?_eq_some_iff.1 hworker).1
    rcases hanswer : partner w.outside call with ⟨_ | answer, u⟩
    · -- The call is not answered: the worker is broken off, which ends it as well.
      rw [hanswer] at hrun
      obtain ⟨rfl, rfl⟩ := Prod.mk.inj hrun
      refine .head (.joined (List.getElem?_set_self hinside) rfl rfl) ?_
      simp only [exchange, hanswer, List.set_set]
      exact .refl _
    · rw [hanswer] at hrun
      have hrest := ih answer
        { w with
          workers := w.workers.set index ⟨message, some (next answer), false⟩
          outside := u
          log := w.log ++ [(.worker index, ⟨call, some answer⟩)] }
        (List.getElem?_set_self hinside) ⟨rfl, hrun⟩
      simp only [List.set_set, List.append_assoc] at hrest
      simp only [exchange, hanswer]
      exact hrest

/-- From then on the workers can be let to their ends one after the other. -/
theorem reaches_handled (messages : List Message) (w : World σ) (joined : List Worker)
    (hjoined : joined.all Worker.joined = true)
    (hworkers : w.workers = joined ++ messages.map (.start router)) :
    ∃ w' rest, Reaches router partner w w' ∧ w'.closed = w.closed ∧
      w'.workers = joined ++ rest ∧ rest.all Worker.joined = true ∧
      rest.map Worker.outcome? = (Serve.handleAll partner router messages w.outside).1 ∧
      w'.outside = (Serve.handleAll partner router messages w.outside).2 := by
  induction messages generalizing w joined with
  | nil => exact ⟨w, [], .refl w, rfl, hworkers, rfl, rfl, rfl⟩
  | cons message messages ih =>
    have hheld := held_run partner (router.handle message) w.outside
    rcases hrun : (router.handle message).run partner w.outside with ⟨result, t⟩
    rw [hrun] at hheld
    have hworker : w.workers[joined.length]? = some (.start router message) := by
      rw [hworkers, List.getElem?_append_right (Nat.le_refl _), Nat.sub_self]
      rfl
    -- The first of the workers that are left comes to its end, and joins those before it.
    have hreaches := reaches_joined router message _ _ w hworker hheld
    obtain ⟨w', rest, hreaches', hclosed, hworkers', hrest, houtcomes, houtside⟩ :=
      ih { w with
        workers := w.workers.set joined.length (.atEnd message result)
        outside := t
        log := _
        broken := _ }
        (joined ++ [.atEnd message result]) (by simp [hjoined, Worker.atEnd])
        (by simp [hworkers])
    refine ⟨w', .atEnd message result :: rest, hreaches.trans hreaches', hclosed, ?_, ?_, ?_, ?_⟩
    · rw [hworkers', List.append_assoc]
      rfl
    · rw [List.all_cons, hrest]
      rfl
    · rw [List.map_cons, houtcomes, Serve.handleAll, hrun, Worker.outcome?_atEnd]
    · rw [houtside, Serve.handleAll, hrun]

/-- Handling the messages one after the other, as `serve` does, is a schedule: it leads to the same
outcomes and leaves the outside in the same state. -/
theorem reaches_serve (hreports : partner.TakesReports) (router : Router) (events : List Event)
    (s : σ) :
    ∃ w, Reaches router partner (start events s) w ∧ w.finished = true ∧
      w.outcomes = (serve partner router events s).1 ∧
      w.outside = (serve partner router events s).2 := by
  -- All events are taken in first, and then one worker after the other comes to its end.
  obtain ⟨trace, t, hheld, htaken⟩ := reaches_taken hreports events (start events s) rfl rfl
  obtain ⟨w, workers, hhandled, hclosed, hworkers, hjoined, houtcomes, houtside⟩ :=
    reaches_handled (Serve.messages events)
      { start events s with
        inbox := []
        closed := true
        workers := (Serve.messages events).map (.start router)
        outside := t
        log := trace.map (Prod.mk .loop) } [] rfl rfl
  rw [List.nil_append] at hworkers
  have hintake : (Serve.intake events).run partner s = (some (), t) := by
    have hrun := hheld.run_eq
    rw [show (start events s).inFlight = 0 from rfl, Nat.zero_add] at hrun
    exact hrun
  refine ⟨w, htaken.trans hhandled, ?_, ?_, ?_⟩
  · rw [finished, hclosed, hworkers, hjoined]
    rfl
  · rw [outcomes, hworkers, houtcomes, serve, hintake]
  · rw [houtside, serve, hintake]

end World

end Gadfly.Schedule
