/-
  Gadfly.Proofs.Isolation

  No message disturbs another.

  When the answer to a call depends on the call alone (`Partner.Oblivious`), it does not matter to
  a worker what others do between two of its calls: under every schedule it has at all times made
  the beginning of the exchanges that the handling of its message makes alone, and in the end all
  of them. What the loop says of the failures of the transport is as independent of the workers,
  and a worker that is broken off is counted once.

  The invariant `World.Sound` relates each worker to its message handled alone (`Worker.Follows`):
  what it has exchanged so far, followed by what it still would exchange, is what that makes.
  `World.movesLeft` decreases with every move.

  Main definitions: `Partner.Oblivious`, `Worker.Follows`, `World.Sound`, `World.movesLeft`,
  `World.Undisturbed`, `World.Settled`.
  Main statements: `World.Sound.moved`, `World.sound_of_follow?`, `World.movesLeft_of_follow?`,
  `World.undisturbed_of_schedule`.
-/

import Gadfly.Proofs.Course
import Gadfly.Proofs.Schedule

namespace Gadfly

open Dialogue

/-! ## Answers that depend on the call alone -/

/-- What is answered does not depend on what went before. -/
def Partner.Oblivious {σ : Type} (partner : Partner σ) : Prop :=
  ∀ s t call, (partner s call).1 = (partner t call).1

/-- A dialogue with such a partner goes the same way from every state. -/
theorem Partner.Oblivious.same {α σ : Type} {partner : Partner σ} (h : partner.Oblivious)
    (d : Dialogue α) (s t : σ) :
    d.exchanges partner s = d.exchanges partner t ∧
      (d.run partner s).1 = (d.run partner t).1 := by
  -- The states may come apart along the dialogue: no answer depends on them.
  induction d generalizing s t with
  | done value => exact ⟨rfl, rfl⟩
  | ask call next ih =>
    have hsame := h s t call
    rw [exchanges_ask, exchanges_ask, run_ask, run_ask]
    rcases hs : partner s call with ⟨answer, s'⟩
    rcases ht : partner t call with ⟨answer', t'⟩
    rw [hs, ht] at hsame
    obtain rfl : answer = answer' := hsame
    cases answer with
    | none => exact ⟨rfl, rfl⟩
    | some answer =>
      obtain ⟨hexchanges, hrun⟩ := ih answer s' t'
      exact ⟨congrArg _ hexchanges, hrun⟩

/-- With such a partner, what comes of the messages one after the other comes of each alone. -/
theorem serve_of_oblivious {σ : Type} {partner : Partner σ} (h : partner.Oblivious)
    (router : Router) (events : List Event) (s : σ) :
    (serve partner router events s).1 =
      (Serve.messages events).map fun message => ((router.handle message).run partner s).1 := by
  have hall : ∀ messages t, (Serve.handleAll partner router messages t).1 =
      messages.map fun message => ((router.handle message).run partner s).1 := by
    intro messages
    induction messages with
    | nil =>
      intro t
      rfl
    | cons message messages ih =>
      intro t
      rw [Serve.handleAll, List.map_cons, (h.same _ s t).2, ← ih]
  rw [serve]
  exact hall _ _

namespace Schedule

variable {σ : Type} {router : Router} {partner : Partner σ} {s : σ}

/-! ## One worker -/

namespace Worker

/-- What the worker would still exchange if nobody else moved. -/
def remaining (partner : Partner σ) (s : σ) (worker : Worker) : List Exchange :=
  match worker.rest with
  | some d => d.exchanges partner s
  | none => []

/-- What would come of the handling if nobody else moved. -/
def result (partner : Partner σ) (s : σ) (worker : Worker) : Option Outcome :=
  worker.rest.bind fun d => (d.run partner s).1

/-- With what it has exchanged so far the worker is on the way of its message handled alone. -/
structure Follows (router : Router) (partner : Partner σ) (s : σ) (trace : List Exchange)
    (worker : Worker) : Prop where
  exchanges_eq : (router.handle worker.message).exchanges partner s =
    trace ++ worker.remaining partner s
  run_eq : ((router.handle worker.message).run partner s).1 = worker.result partner s

theorem follows_start (router : Router) (partner : Partner σ) (s : σ) (message : Message) :
    Follows router partner s [] (start router message) :=
  { exchanges_eq := rfl, run_eq := rfl }

/-- A call that is made is the first of those that were still to be made, whatever has happened to
the outside. -/
theorem remaining_advanced (hpartner : partner.Oblivious) (s : σ) {worker : Worker} {call : Call}
    {next : call.Answer → Dialogue Outcome} (hrest : worker.rest = some (.ask call next))
    (u : σ) :
    worker.remaining partner s = ⟨call, (partner u call).1⟩ ::
        remaining partner s { worker with rest := (partner u call).1.map next } ∧
      worker.result partner s =
        result partner s { worker with rest := (partner u call).1.map next } := by
  rw [hpartner u s call, remaining, result, hrest, Option.bind_some, run_ask]
  simp only [exchanges_ask]
  rcases partner s call with ⟨_ | answer, t⟩
  · exact ⟨rfl, rfl⟩
  · obtain ⟨hexchanges, hrun⟩ := hpartner.same (next answer) t s
    exact ⟨congrArg _ hexchanges, hrun⟩

/-- One more call leaves the worker on its way. -/
theorem Follows.advanced (hpartner : partner.Oblivious) {trace : List Exchange} {worker : Worker}
    (h : Follows router partner s trace worker) {call : Call}
    {next : call.Answer → Dialogue Outcome} (hrest : worker.rest = some (.ask call next))
    (u : σ) :
    Follows router partner s (trace ++ [⟨call, (partner u call).1⟩])
      { worker with rest := (partner u call).1.map next } := by
  obtain ⟨hremaining, hresult⟩ := remaining_advanced hpartner s hrest u
  refine ⟨?_, h.run_eq.trans hresult⟩
  rw [List.append_assoc, List.singleton_append, ← hremaining]
  exact h.exchanges_eq

/-- A worker that has ended has done what there is to do. -/
theorem Follows.ended {trace : List Exchange} {worker : Worker}
    (h : Follows router partner s trace worker) (hended : worker.ended = true) :
    trace = (router.handle worker.message).exchanges partner s ∧
      worker.outcome? = ((router.handle worker.message).run partner s).1 ∧
      worker.rest.isNone = ((router.handle worker.message).run partner s).1.isNone := by
  obtain ⟨hexchanges, hrun⟩ := h
  rw [hexchanges, hrun, remaining, result, outcome?]
  rw [Worker.ended] at hended
  rcases hrest : worker.rest with _ | outcome | ⟨call, next⟩
  · exact ⟨(List.append_nil _).symm, rfl, rfl⟩
  · exact ⟨(List.append_nil _).symm, rfl, rfl⟩
  · rw [hrest] at hended
    cases hended

end Worker

/-! ## All workers -/

namespace World

variable {events : List Event} {w w' : World σ}

/-- The reports about the failures among events. -/
def failureReports (events : List Event) : List Call :=
  (Serve.failures events).map fun fault => .report (.transportFailed fault)

/-- What the loop has said of the failures among the events, and what it still has to say. -/
structure Announced (events : List Event) (w : World σ) : Prop where
  pending : w.closed = false →
    (Party.loop.share w.log).map Exchange.call ++ failureReports w.inbox = failureReports events
  closed : w.closed = true → w.inbox = [] ∧
    ∃ inFlight ≤ (Serve.messages events).length,
      (Party.loop.share w.log).map Exchange.call =
        failureReports events ++ [.report (.inboundClosed inFlight)]

/-- The invariant of all schedules for given events. -/
structure Sound (router : Router) (partner : Partner σ) (events : List Event) (s : σ)
    (w : World σ) : Prop where
  /-- Each message has its own worker, in the order of the events. -/
  taken : w.workers.map Worker.message ++ Serve.messages w.inbox = Serve.messages events
  announced : Announced events w
  follows : ∀ index worker, w.workers[index]? = some worker →
    Worker.Follows router partner s ((Party.worker index).share w.log) worker
  /-- Nothing is done by a worker that there is not. -/
  absent : ∀ index, w.workers.length ≤ index → (Party.worker index).share w.log = []
  ended : ∀ worker ∈ w.workers, worker.joined = true → worker.ended = true
  counted : ∀ index, w.broken.count index = (w.workers[index]?.map Worker.timesCounted).getD 0

theorem sound_start (router : Router) (partner : Partner σ) (events : List Event) (s : σ) :
    Sound router partner events s (start events s) where
  taken := rfl
  announced := ⟨fun _ => rfl, fun h => Bool.noConfusion h⟩
  follows _ _ h := nomatch h
  absent _ _ := rfl
  ended _ h := nomatch h
  counted _ := rfl

/-- What becomes of a worker does not change its message. -/
theorem map_message_set {index : Nat} {worker worker' : Worker}
    (hworker : w.workers[index]? = some worker) (hmessage : worker'.message = worker.message) :
    (w.workers.set index worker').map Worker.message = w.workers.map Worker.message := by
  refine List.ext_getElem? fun other => ?_
  rw [List.getElem?_map, List.getElem?_map, List.getElem?_set]
  split
  · rename_i hother
    subst hother
    rw [if_pos (List.getElem?_eq_some_iff.1 hworker).1, hworker]
    exact congrArg some hmessage
  · rfl

/-- After one worker has changed, a worker is that one or an old one. -/
theorem getElem?_set_cases {index other : Nat} {worker worker' found : Worker}
    (hworker : w.workers[index]? = some worker)
    (hfound : (w.workers.set index worker')[other]? = some found) :
    index = other ∧ found = worker' ∨ index ≠ other ∧ w.workers[other]? = some found := by
  by_cases hother : index = other
  · subst hother
    rw [List.getElem?_set_self (List.getElem?_eq_some_iff.1 hworker).1] at hfound
    exact .inl ⟨rfl, (Option.some.inj hfound).symm⟩
  · rw [List.getElem?_set_ne hother] at hfound
    exact .inr ⟨hother, hfound⟩

section Moves

variable (h : Sound router partner events s w)

include h

theorem Sound.inbox_eq_nil (hclosed : w.closed = true) : w.inbox = [] :=
  (h.announced.closed hclosed).1

/-- What the loop does is nothing to the workers. -/
theorem Sound.loop_called (call : Call) :
    (∀ index worker, w.workers[index]? = some worker →
      Worker.Follows router partner s
        ((Party.worker index).share (w.exchange partner .loop call).log) worker) ∧
    ∀ index, w.workers.length ≤ index →
      (Party.worker index).share (w.exchange partner .loop call).log = [] := by
  have hshare : ∀ index, (Party.worker index).share (w.exchange partner .loop call).log =
      (Party.worker index).share w.log := by
    intro index
    rw [share_exchange, if_neg nofun, List.append_nil]
  refine ⟨?_, ?_⟩
  · intro index worker hworker
    rw [hshare]
    exact h.follows index worker hworker
  · intro index hindex
    rw [hshare]
    exact h.absent index hindex

theorem Sound.started {message : Message} {inbox : List Event}
    (hinbox : w.inbox = .ok message :: inbox) :
    Sound router partner events s
      { w with inbox := inbox, workers := w.workers ++ [.start router message] } := by
  refine ⟨?_, ⟨?_, ?_⟩, ?_, ?_, ?_, ?_⟩
  · have htaken := h.taken
    rw [hinbox] at htaken
    rw [List.map_append, List.append_assoc]
    exact htaken
  · intro hclosed
    have hopen := h.announced.pending hclosed
    rw [hinbox] at hopen
    exact hopen
  · intro hclosed
    rw [h.inbox_eq_nil hclosed] at hinbox
    cases hinbox
  · intro index worker hworker
    rcases Nat.lt_or_ge index w.workers.length with hold | hnew
    · rw [List.getElem?_append_left hold] at hworker
      exact h.follows index worker hworker
    · -- The new worker has everything still before it.
      rw [List.getElem?_append_right hnew] at hworker
      obtain rfl := List.mem_singleton.1 (List.mem_of_getElem? hworker)
      rw [h.absent index hnew]
      exact Worker.follows_start router partner s message
  · intro index hindex
    rw [List.length_append] at hindex
    exact h.absent index (Nat.le_of_add_right_le hindex)
  · intro worker hworker hjoined
    rcases List.mem_append.1 hworker with hold | hnew
    · exact h.ended worker hold hjoined
    · obtain rfl := List.mem_singleton.1 hnew
      cases hjoined
  · intro index
    rw [h.counted index]
    -- Neither a worker that there is not nor a new one counts.
    rcases Nat.lt_or_ge index w.workers.length with hold | hnew
    · rw [List.getElem?_append_left hold]
    · rw [List.getElem?_append_right hnew, List.getElem?_eq_none hnew]
      cases index - w.workers.length <;> rfl

theorem Sound.reported {fault : TransportFault} {inbox : List Event}
    (hinbox : w.inbox = .error fault :: inbox) :
    Sound router partner events s
      ({ w with inbox := inbox }.exchange partner .loop (.report (.transportFailed fault))) := by
  obtain ⟨hfollows, habsent⟩ := h.loop_called (.report (.transportFailed fault))
  refine ⟨?_, ⟨?_, ?_⟩, hfollows, habsent, h.ended, h.counted⟩
  · have htaken := h.taken
    rw [hinbox] at htaken
    exact htaken
  · intro hclosed
    have hopen := h.announced.pending hclosed
    rw [hinbox] at hopen
    rw [share_exchange, if_pos rfl, List.map_append, List.append_assoc]
    exact hopen
  · intro hclosed
    rw [h.inbox_eq_nil hclosed] at hinbox
    cases hinbox

theorem Sound.closed (hinbox : w.inbox = []) (hclosed : w.closed = false) :
    Sound router partner events s
      ({ w with closed := true }.exchange partner .loop
        (.report (.inboundClosed w.inFlight))) := by
  obtain ⟨hfollows, habsent⟩ := h.loop_called (.report (.inboundClosed w.inFlight))
  refine ⟨h.taken, ⟨fun hopen => Bool.noConfusion hopen, fun _ => ⟨hinbox, w.inFlight, ?_, ?_⟩⟩,
    hfollows, habsent, h.ended, h.counted⟩
  · -- All messages have their workers by now.
    have htaken := congrArg List.length h.taken
    rw [hinbox, List.length_append, List.length_map] at htaken
    have hcount : w.inFlight ≤ w.workers.length := List.countP_le_length
    omega
  · have hopen := h.announced.pending hclosed
    rw [hinbox] at hopen
    rw [share_exchange, if_pos rfl, List.map_append, ← hopen,
      show failureReports [] = [] from rfl, List.append_nil]
    rfl

/-- A worker can advance only before the loop looks at its end. -/
theorem Sound.joined_eq_false {index : Nat} {worker : Worker} {call : Call}
    {next : call.Answer → Dialogue Outcome} (hworker : w.workers[index]? = some worker)
    (hrest : worker.rest = some (.ask call next)) : worker.joined = false := by
  refine eq_false_of_ne_true fun hjoined => ?_
  have hended := h.ended worker (List.mem_of_getElem? hworker) hjoined
  rw [Worker.ended, hrest] at hended
  cases hended

theorem Sound.advanced (hpartner : partner.Oblivious) {index : Nat} {worker : Worker}
    {call : Call} {next : call.Answer → Dialogue Outcome}
    (hworker : w.workers[index]? = some worker) (hrest : worker.rest = some (.ask call next)) :
    Sound router partner events s
      ({ w with
          workers := w.workers.set index
            { worker with rest := (partner w.outside call).1.map next } }.exchange partner
        (.worker index) call) := by
  have hjoined := h.joined_eq_false hworker hrest
  have hinside : index < w.workers.length := (List.getElem?_eq_some_iff.1 hworker).1
  refine ⟨?_, ⟨?_, ?_⟩, ?_, ?_, ?_, ?_⟩
  · rw [exchange_workers, map_message_set hworker]
    · exact h.taken
    · rfl
  · intro hclosed
    rw [share_exchange, if_neg nofun, List.append_nil]
    exact h.announced.pending hclosed
  · intro hclosed
    rw [share_exchange, if_neg nofun, List.append_nil]
    exact h.announced.closed hclosed
  · intro other worker' hworker'
    rw [share_exchange]
    -- The call counts for the worker that made it, and for no other.
    rcases getElem?_set_cases hworker hworker' with ⟨rfl, rfl⟩ | ⟨hother, hworker'⟩
    · rw [if_pos rfl]
      exact (h.follows index worker hworker).advanced hpartner hrest w.outside
    · rw [if_neg fun hsame => hother (Party.worker.inj hsame), List.append_nil]
      exact h.follows other worker' hworker'
  · intro other hother
    rw [exchange_workers, List.length_set] at hother
    have hne : index ≠ other := Nat.ne_of_lt (Nat.lt_of_lt_of_le hinside hother)
    rw [share_exchange, if_neg fun hsame => hne (Party.worker.inj hsame), List.append_nil]
    exact h.absent other hother
  · intro worker' hworker' hjoined'
    rcases List.mem_or_eq_of_mem_set hworker' with hold | rfl
    · exact h.ended worker' hold hjoined'
    · -- The loop cannot have looked at the end of a worker that goes on.
      rw [hjoined] at hjoined'
      cases hjoined'
  · intro other
    rw [exchange_broken, exchange_workers, h.counted other]
    by_cases hother : index = other
    · subst hother
      rw [List.getElem?_set_self hinside, hworker]
      simp only [Option.map_some, Worker.timesCounted, hjoined, Bool.false_and]
    · rw [List.getElem?_set_ne hother]

theorem Sound.joined {index : Nat} {worker : Worker} (hworker : w.workers[index]? = some worker)
    (hended : worker.ended = true) (hjoined : worker.joined = false) :
    Sound router partner events s
      { w with
        workers := w.workers.set index { worker with joined := true }
        broken := if worker.rest.isNone then w.broken ++ [index] else w.broken } := by
  have hinside : index < w.workers.length := (List.getElem?_eq_some_iff.1 hworker).1
  refine ⟨?_, ⟨h.announced.pending, h.announced.closed⟩, ?_, ?_, ?_, ?_⟩
  · rw [map_message_set hworker]
    · exact h.taken
    · rfl
  · intro other worker' hworker'
    rcases getElem?_set_cases hworker hworker' with ⟨rfl, rfl⟩ | ⟨-, hworker'⟩
    · obtain ⟨hexchanges, hrun⟩ := h.follows index worker hworker
      exact ⟨hexchanges, hrun⟩
    · exact h.follows other worker' hworker'
  · intro other hother
    rw [List.length_set] at hother
    exact h.absent other hother
  · intro worker' hworker' hjoined'
    rcases List.mem_or_eq_of_mem_set hworker' with hold | rfl
    · exact h.ended worker' hold hjoined'
    · exact hended
  · intro other
    have hcounted := h.counted other
    by_cases hother : index = other
    · subst hother
      rw [hworker] at hcounted
      rw [List.getElem?_set_self hinside]
      -- It was not counted before, since the loop had not looked at its end.
      cases hrest : worker.rest with
      | none => simp_all [Worker.timesCounted]
      | some d => simp_all [Worker.timesCounted]
    · rw [List.getElem?_set_ne hother, ← hcounted]
      split
      · rw [List.count_append, List.count_singleton, if_neg, Nat.add_zero]
        simpa using hother
      · rfl

end Moves

/-- Every move (`Moved`) preserves the invariant `Sound`. -/
theorem Sound.moved (hpartner : partner.Oblivious) {move : Move}
    (hmoved : Moved router partner w move w') (h : Sound router partner events s w) :
    Sound router partner events s w' := by
  cases hmoved with
  | started hinbox => exact h.started hinbox
  | reported hinbox => exact h.reported hinbox
  | closed hinbox hclosed => exact h.closed hinbox hclosed
  | advanced hworker hrest => exact h.advanced hpartner hworker hrest
  | joined hworker hended hjoined => exact h.joined hworker hended hjoined

theorem sound_of_follow? (hpartner : partner.Oblivious) {schedule : List Move}
    (h : (start events s).follow? router partner schedule = some w) :
    Sound router partner events s w :=
  follow?_induction (fun _ _ _ hmoved hw => hw.moved hpartner hmoved) h
    (sound_start router partner events s)

/-! ## The number of moves -/

/-- How many moves a worker is still good for: its calls, and the look at its end. -/
def workerMoves (partner : Partner σ) (s : σ) (worker : Worker) : Nat :=
  (worker.remaining partner s).length + (!worker.joined).toNat

/-- How many moves an event that is not taken in is good for. -/
def eventMoves (router : Router) (partner : Partner σ) (s : σ) : Event → Nat
  | .ok message => workerMoves partner s (.start router message) + 1
  | .error _ => 1

/-- How many moves are left. -/
def movesLeft (router : Router) (partner : Partner σ) (s : σ) (w : World σ) : Nat :=
  (w.inbox.map (eventMoves router partner s)).sum + (!w.closed).toNat +
    (w.workers.map (workerMoves partner s)).sum

theorem sum_map_set (f : Worker → Nat) {workers : List Worker} {index : Nat}
    {worker : Worker} (h : workers[index]? = some worker) (worker' : Worker) :
    ((workers.set index worker').map f).sum + f worker = (workers.map f).sum + f worker' := by
  induction workers generalizing index with
  | nil => cases h
  | cons first rest ih =>
    cases index with
    | zero =>
      obtain rfl := Option.some.inj h
      simp only [List.set_cons_zero, List.map_cons, List.sum_cons]
      omega
    | succ index =>
      have hrest := ih h
      simp only [List.set_cons_succ, List.map_cons, List.sum_cons]
      omega

/-- Each move is one less. -/
theorem movesLeft_of_moved (hpartner : partner.Oblivious) {move : Move}
    (h : Moved router partner w move w') :
    w.movesLeft router partner s = w'.movesLeft router partner s + 1 := by
  cases h with
  | started hinbox =>
    simp only [movesLeft, hinbox, List.map_cons, List.map_append, List.sum_cons, List.sum_append,
      List.map_nil, List.sum_nil, eventMoves]
    omega
  | reported hinbox =>
    simp only [movesLeft, exchange_inbox, exchange_closed, exchange_workers, hinbox,
      List.map_cons, List.sum_cons, eventMoves]
    omega
  | closed hinbox hclosed =>
    simp only [movesLeft, exchange_inbox, exchange_closed, exchange_workers, hclosed,
      Bool.not_false, Bool.not_true, Bool.toNat_true, Bool.toNat_false]
    omega
  | @advanced index worker call next hworker hrest =>
    -- Only this worker has other moves left than before, one less.
    have hsum := sum_map_set (workerMoves partner s) hworker
      { worker with rest := (partner w.outside call).1.map next }
    have hremaining := (Worker.remaining_advanced hpartner s hrest w.outside).1
    have hmoves : workerMoves partner s worker = workerMoves partner s
        { worker with rest := (partner w.outside call).1.map next } + 1 := by
      rw [workerMoves, hremaining, List.length_cons, Nat.add_right_comm]
      rfl
    simp only [movesLeft, exchange_inbox, exchange_closed, exchange_workers]
    omega
  | @joined index worker hworker hended hjoined =>
    have hsum := sum_map_set (workerMoves partner s) hworker { worker with joined := true }
    have hmoves : workerMoves partner s worker =
        workerMoves partner s { worker with joined := true } + 1 := by
      rw [workerMoves, hjoined]
      rfl
    simp only [movesLeft]
    omega

/-- A schedule that can be followed (`follow?`) has as many moves as it leaves less. -/
theorem movesLeft_of_follow? (hpartner : partner.Oblivious) {schedule : List Move}
    (h : w.follow? router partner schedule = some w') :
    w.movesLeft router partner s = w'.movesLeft router partner s + schedule.length := by
  induction schedule generalizing w with
  | nil =>
    obtain rfl := Option.some.inj h
    rfl
  | cons move schedule ih =>
    obtain ⟨next, hnext, hrest⟩ := Option.bind_eq_some_iff.1 h
    rw [movesLeft_of_moved hpartner (moved_of_move? hnext), ih hrest, List.length_cons,
      Nat.add_assoc]

/-! ## What the invariant says -/

/-- What holds of the messages among events at all times. -/
structure Undisturbed (router : Router) (partner : Partner σ) (events : List Event) (s : σ)
    (w : World σ) : Prop where
  /-- What is done for a message is the beginning of what is done for it alone. -/
  begun : ∀ index message, (Serve.messages events)[index]? = some message →
    (Party.worker index).share w.log <+: (router.handle message).exchanges partner s
  /-- Besides that, only the loop says something: of each failure, in order, and of the end. -/
  announcing : ∃ inFlight, (Party.loop.share w.log).map Exchange.call <+:
    failureReports events ++ [.report (.inboundClosed inFlight)]
  nobodyElse : ∀ index e, (.worker index, e) ∈ w.log → index < (Serve.messages events).length
  /-- A message whose completion breaks off is not seen by the commands. -/
  lost : ∀ index request e, (.worker index, ⟨.complete request, none⟩) ∈ w.log →
    (.worker index, e) ∈ w.log → e.call.isDispatch = false

/-- What holds of the messages among events in the end. -/
structure Settled (router : Router) (partner : Partner σ) (events : List Event) (s : σ)
    (w : World σ) : Prop where
  /-- What is done for a message is what is done for it alone. -/
  whole : ∀ index message, (Serve.messages events)[index]? = some message →
    (Party.worker index).share w.log = (router.handle message).exchanges partner s
  /-- Each failure has been reported once, and then the end. -/
  announced : ∃ inFlight ≤ (Serve.messages events).length,
    (Party.loop.share w.log).map Exchange.call =
      failureReports events ++ [.report (.inboundClosed inFlight)]
  /-- A message is counted once if its handling alone is broken off, and else never. -/
  counted : ∀ index, w.broken.count index =
    if (Serve.messages events)[index]?.any fun message =>
      ((router.handle message).run partner s).1.isNone then 1 else 0
  /-- What comes of the messages is what comes of them one after the other. -/
  outcomes : w.outcomes = (serve partner router events s).1

theorem Sound.exists_worker (h : Sound router partner events s w) {index : Nat}
    {message : Message} (hmessage : (Serve.messages events)[index]? = some message)
    (hindex : index < w.workers.length) :
    ∃ worker, w.workers[index]? = some worker ∧ worker.message = message := by
  rw [← h.taken, List.getElem?_append_left (by rwa [List.length_map]),
    List.getElem?_map] at hmessage
  exact Option.map_eq_some_iff.1 hmessage

theorem Sound.begun (h : Sound router partner events s w) {index : Nat} {message : Message}
    (hmessage : (Serve.messages events)[index]? = some message) :
    (Party.worker index).share w.log <+: (router.handle message).exchanges partner s := by
  rcases Nat.lt_or_ge index w.workers.length with hindex | hindex
  · obtain ⟨worker, hworker, rfl⟩ := h.exists_worker hmessage hindex
    exact ⟨_, (h.follows index worker hworker).exchanges_eq.symm⟩
  · rw [h.absent index hindex]
    exact List.nil_prefix

theorem Sound.lt_length (h : Sound router partner events s w) {index : Nat} {e : Exchange}
    (he : (.worker index, e) ∈ w.log) : index < (Serve.messages events).length := by
  have hlength := congrArg List.length h.taken
  rw [List.length_append, List.length_map] at hlength
  rcases Nat.lt_or_ge index w.workers.length with hindex | hindex
  · omega
  · have hshare := Party.mem_share.2 he
    rw [h.absent index hindex] at hshare
    exact absurd hshare List.not_mem_nil

theorem Sound.undisturbed (h : Sound router partner events s w) :
    Undisturbed router partner events s w := by
  refine ⟨fun _ _ hmessage => h.begun hmessage, ?_, fun _ _ he => h.lt_length he, ?_⟩
  · rcases hclosed : w.closed with _ | _
    · -- Before the end any number does for the report of it, which has not come.
      have hopen := h.announced.pending hclosed
      exact ⟨0, List.IsPrefix.trans ⟨_, hopen⟩ (List.prefix_append _ _)⟩
    · obtain ⟨-, inFlight, -, hcalls⟩ := h.announced.closed hclosed
      exact ⟨inFlight, hcalls ▸ List.prefix_rfl⟩
  · intro index request e hbroken he
    have hbegun := (h.begun (List.getElem?_eq_getElem (h.lt_length he))).subset
    exact router.not_dispatched_of_broken (hbegun (Party.mem_share.2 hbroken)) e
      (hbegun (Party.mem_share.2 he))

/-- When all is done, each worker has done what there is to do for its message. -/
theorem Sound.worker_settled (h : Sound router partner events s w) (hfinished : w.finished = true)
    {index : Nat} {worker : Worker} (hworker : w.workers[index]? = some worker) :
    (Party.worker index).share w.log = (router.handle worker.message).exchanges partner s ∧
      worker.outcome? = ((router.handle worker.message).run partner s).1 ∧
      worker.timesCounted =
        if ((router.handle worker.message).run partner s).1.isNone then 1 else 0 := by
  have hmem := List.mem_of_getElem? hworker
  have hjoined := List.all_eq_true.1 (Bool.and_eq_true_iff.1 hfinished).2 worker hmem
  obtain ⟨hshare, houtcome, hbroken⟩ :=
    (h.follows index worker hworker).ended (h.ended worker hmem hjoined)
  refine ⟨hshare, houtcome, ?_⟩
  rw [Worker.timesCounted, hjoined, Bool.true_and, hbroken]

theorem Sound.settled (hpartner : partner.Oblivious) (h : Sound router partner events s w)
    (hfinished : w.finished = true) : Settled router partner events s w := by
  obtain ⟨hinbox, hcalls⟩ := h.announced.closed (Bool.and_eq_true_iff.1 hfinished).1
  -- All events are taken in, so the workers are those of all messages.
  have hmessages : w.workers.map Worker.message = Serve.messages events := by
    have htaken := h.taken
    rw [hinbox] at htaken
    exact (List.append_nil _).symm.trans htaken
  refine ⟨?_, hcalls, ?_, ?_⟩
  · intro index message hmessage
    rw [← hmessages, List.getElem?_map] at hmessage
    obtain ⟨worker, hworker, rfl⟩ := Option.map_eq_some_iff.1 hmessage
    exact (h.worker_settled hfinished hworker).1
  · intro index
    rw [h.counted index, ← hmessages, List.getElem?_map]
    rcases hworker : w.workers[index]? with _ | worker
    · rfl
    · exact (h.worker_settled hfinished hworker).2.2
  · rw [serve_of_oblivious hpartner, ← hmessages, List.map_map, outcomes]
    refine List.map_congr_left fun worker hmem => ?_
    obtain ⟨index, hworker⟩ := List.getElem?_of_mem hmem
    exact (h.worker_settled hfinished hworker).2.1

/-- Under every schedule, and whatever else is among the events, what is done for a message is what
is done for it alone: at all times a beginning of it (`Undisturbed`), and in the end all of it
(`Settled`). Each move brings that end nearer (`movesLeft`), and until then a move is possible. -/
theorem undisturbed_of_schedule (router : Router) (hpartner : partner.Oblivious)
    (events : List Event) (s : σ) {schedule : List Move}
    (h : (start events s).follow? router partner schedule = some w) :
    Undisturbed router partner events s w ∧
    (start events s).movesLeft router partner s =
      w.movesLeft router partner s + schedule.length ∧
    if w.finished then Settled router partner events s w
    else ∃ move w', w.move? router partner move = some w' := by
  have hsound := sound_of_follow? hpartner h
  refine ⟨hsound.undisturbed, movesLeft_of_follow? hpartner h, ?_⟩
  split
  · rename_i hfinished
    exact hsound.settled hpartner hfinished
  · rename_i hfinished
    obtain ⟨move, w', hmoved⟩ := exists_moved (eq_false_of_ne_true hfinished)
    exact ⟨move, w', move?_of_moved hmoved⟩

section Scene

open Rehearsal

/-- The expensive model breaks off, and the cheap one says no. -/
def moody : Partner Unit :=
  fun _ call => (match call with
    | .history .. => some (.ok [])
    | .typing .. => some (.ok ())
    | .complete request =>
      if request.model = bot.settings.expensiveModel then none else some (.ok (.ofText "no"))
    | .send .. => some (.ok ())
    | .dispatch _ => some none
    | .report _ => some (), ())

/-- Two messages, the second of which goes by, and a failure between them. -/
def traffic : List Event :=
  [.ok claim, .error (.connectionLost "reset"),
    .ok { claim with id := "8", mentions := .ofList [] }]

/-- The two messages are handled at the same time. -/
def alternating : List Move :=
  [.take, .advance 0, .take, .take, .advance 1, .advance 0, .advance 1, .advance 0, .advance 1,
    .take, .advance 0, .advance 1, .join 0, .advance 1, .join 1]

theorem undisturbed_alternating :
    moody.Oblivious ∧ ∃ w, (start traffic ()).follow? bot moody alternating = some w ∧
      w.broken = [0] ∧ Settled bot moody traffic () w := by
  have hoblivious : moody.Oblivious := fun _ _ _ => rfl
  have hfinished : ((start traffic ()).follow? bot moody alternating).any
      (fun w => w.finished && w.broken == [0]) = true := by
    decide +kernel
  obtain ⟨w, hw, hfinished⟩ := (Option.any_eq_true _ _).1 hfinished
  obtain ⟨hfinished, hbroken⟩ := Bool.and_eq_true_iff.1 hfinished
  have hend := (undisturbed_of_schedule bot hoblivious traffic () hw).2.2
  rw [if_pos hfinished] at hend
  exact ⟨hoblivious, w, hw, eq_of_beq hbroken, hend⟩

end Scene

end World

end Schedule

end Gadfly
