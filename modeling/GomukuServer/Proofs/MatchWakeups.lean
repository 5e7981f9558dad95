/-
Module: GomukuServer.Proofs.MatchWakeups
Layer: Proofs
Purpose: The mutex and the condition variable of the match pool.  The match thread never sleeps
  while two users could be paired, since only it sleeps there and every user who joins notifies it;
  and with the mutex between its calls the server does nothing that `Threads` could not do.
Trusted boundary: none
Main exports: Belongs, matchThread_alert, refines_threads, pairs_next
-/
import GomukuServer.Module.GameServer
import GomukuServer.Module.MatchMonitor
import Mathlib.Order.WellFounded

namespace GomukuServer.Proofs.MatchWakeups

open Base Base.Runs Base.Monitor Model Manager Db Net
open GomukuServer.Module GomukuServer.Module.MatchMonitor

/-! ### What an action does -/

/-- The ways an action of the holder can go. -/
inductive Acted (roomCount : UInt32) (server : Server) :
    MatchPoint → Server → Effect MatchPoint → Prop
  | addFound {userId} : Acted roomCount server (.addLookup userId) server
      (.goOn (.addEnqueue userId (server.users.getUserByUserId userId)))
  | added {userId user after} (enqueued : server.enqueue userId user = .ok (after, true)) :
      Acted roomCount server (.addEnqueue userId user) after (.goOn .addNotify)
  | refused {userId user after} (enqueued : server.enqueue userId user = .ok (after, false)) :
      Acted roomCount server (.addEnqueue userId user) after .leave
  | notified : Acted roomCount server .addNotify server (.notifyOne .unlock)
  | removeFound {userId} : Acted roomCount server (.removeLookup userId) server
      (.goOn (.removeDequeue userId (server.users.getUserByUserId userId)))
  | removed {userId user after ret} (dequeued : server.dequeue userId user = .ok (after, ret)) :
      Acted roomCount server (.removeDequeue userId user) after .leave
  | unlocked : Acted roomCount server .unlock server .leave
  | waited (nobody : server.NobodyToPair) :
      Acted roomCount server .whileNobody server (.wait .whileNobody)
  | started (somebody : ¬ server.NobodyToPair) :
      Acted roomCount server .whileNobody server (.goOn (.forQueue 0))
  | taken {i userId1 userId2 rest} (inside : i < 3)
      (queued : server.pool.queues ⟨i, inside⟩ = userId1 :: userId2 :: rest) :
      Acted roomCount server (.forQueue i)
        { server with pool := server.pool.popped ⟨i, inside⟩ rest }
        (.goOn (.inBody i (.popped userId1 userId2)))
  | skipped {i} (inside : i < 3) (short : (server.pool.queues ⟨i, inside⟩).length ≤ 1) :
      Acted roomCount server (.forQueue i) server (.goOn (.forQueue (i + 1)))
  | finished {i} (past : ¬ i < 3) :
      Acted roomCount server (.forQueue i) server (.goOn .whileNobody)
  | paired {i pc after later} (called : server.matchStep roomCount pc = .ok (after, later)) :
      Acted roomCount server (.inBody i pc) after
        (.goOn ((later.map (MatchPoint.inBody i)).getD (.forQueue (i + 1))))

/-- Every action goes one of these ways. -/
theorem acted_of_act {roomCount : UInt32} {point : MatchPoint} {server after : Server}
    {effect : Effect MatchPoint} (actEq : act roomCount point server = .ok (after, effect)) :
    Acted roomCount server point after effect := by
  cases point with
  | addLookup userId =>
      cases actEq
      exact .addFound
  | addEnqueue userId user =>
      obtain ⟨⟨enqueued, ret⟩, called, same⟩ := bind_eq_ok.mp actEq
      cases same
      cases ret with
      | true => exact .added called
      | false => exact .refused called
  | addNotify =>
      cases actEq
      exact .notified
  | removeLookup userId =>
      cases actEq
      exact .removeFound
  | removeDequeue userId user =>
      obtain ⟨⟨dequeued, ret⟩, called, same⟩ := bind_eq_ok.mp actEq
      cases same
      exact .removed called
  | unlock =>
      cases actEq
      exact .unlocked
  | whileNobody =>
      cases actEq
      split
      · exact .waited (by assumption)
      · exact .started (by assumption)
  | forQueue i =>
      simp only [act] at actEq
      split at actEq
      · rename_i inside
        split at actEq
        · cases actEq
          exact .taken inside (by assumption)
        · rename_i short
          cases actEq
          refine .skipped inside ?_
          match queued : server.pool.queues ⟨i, inside⟩ with
          | [] | [_] => simp
          | _ :: _ :: _ => exact absurd queued (short _ _ _)
      · cases actEq
        exact .finished (by assumption)
  | inBody i pc =>
      obtain ⟨⟨moved, later⟩, called, same⟩ := bind_eq_ok.mp actEq
      cases same
      exact .paired called

/-! ### Where the threads are -/

/-- The points of a thread: handlers are in `addUser` or `removeUser`, the match thread in its
function. -/
def Belongs : MatchUser → MatchPoint → Prop
  | .handler _, .addLookup _ | .handler _, .addEnqueue _ _ | .handler _, .addNotify
  | .handler _, .removeLookup _ | .handler _, .removeDequeue _ _ | .handler _, .unlock => True
  | .matchThread, .whileNobody | .matchThread, .forQueue _ | .matchThread, .inBody _ _ => True
  | _, _ => False

/-- A wait goes on at the test of the match thread's inner loop. -/
theorem resumes_program : Resumes program (· = .whileNobody) where
  timeout := fun _ same => same
  waits := by
    intro point roomCount server after again waits
    cases acted_of_act waits with
    | waited => rfl

/-- Threads stay at their points. -/
theorem closed_program : Closed program Belongs where
  entry := by
    intro thread point enters
    cases thread <;> cases point <;> trivial
  timeout := fun _ _ belongs => belongs
  goesOn := by
    intro thread point roomCount server after effect next belongs actEq nextEq
    cases acted_of_act actEq with
    | refused | removed | unlocked | waited => simp [Effect.next] at nextEq
    | @paired i pc after later called =>
        cases nextEq
        cases thread with
        | handler => exact absurd belongs id
        | matchThread => cases later <;> trivial
    | _ =>
        cases nextEq
        cases thread <;> trivial
  waits := by
    intro thread point roomCount server after again belongs waits
    cases acted_of_act waits with
    | waited => exact belongs

/-- Every thread is at one place and at one of its points, and waits for the condition. -/
structure InOrder (state : MonitorState) : Prop where
  sound : Sound Belongs state
  waiting : Waiting (· = .whileNobody) state

theorem inOrder_start (server : Server) : InOrder (.start server) :=
  ⟨sound_start Belongs server, waiting_start _ server⟩

theorem inOrder_step {state next : MonitorState} {event : MonitorEvent} (inOrder : InOrder state)
    (stepEq : MatchMonitor.step state event = .ok next) : InOrder next :=
  ⟨sound_step closed_program inOrder.sound stepEq,
    waiting_step resumes_program inOrder.waiting stepEq⟩

/-- Only the match thread waits. -/
theorem InOrder.eq_matchThread {state : MonitorState} (inOrder : InOrder state)
    {place : MatchUser × MatchPoint} (inside : place ∈ state.sleeping ++ state.woken) :
    place = (.matchThread, .whileNobody) := by
  have there : place ∈ state.places := List.mem_append_right _ inside
  have own := inOrder.sound.own place there
  have point := inOrder.waiting place inside
  obtain ⟨thread, point'⟩ := place
  obtain rfl : point' = .whileNobody := point
  cases thread with
  | handler => exact absurd own id
  | matchThread => rfl

/-- So at most one thread sleeps. -/
theorem InOrder.length_sleeping {state : MonitorState} (inOrder : InOrder state) :
    state.sleeping.length ≤ 1 := by
  have once := inOrder.sound.once
  simp only [State.places, List.map_append, List.nodup_append] at once
  have subset : state.sleeping.map Prod.fst ⊆ [.matchThread] := by
    intro thread inside
    obtain ⟨place, asleep, rfl⟩ := List.mem_map.mp inside
    rw [inOrder.eq_matchThread (List.mem_append_left _ asleep)]
    exact List.mem_singleton.mpr rfl
  simpa using once.2.1.1.length_le_of_subset subset

/-- Nobody sleeps while the match thread has the mutex. -/
theorem InOrder.sleeping_nil {state : MonitorState} (inOrder : InOrder state)
    {holder : Holder MatchUser MatchPoint UInt32} (holds : state.holder = some holder)
    (own : holder.current.thread = .matchThread) : state.sleeping = [] := by
  rw [List.eq_nil_iff_forall_not_mem]
  intro place asleep
  have same := inOrder.eq_matchThread (List.mem_append_left _ asleep)
  have once := inOrder.sound.once
  simp only [State.places, holds, Option.map_some, Option.toList_some, List.singleton_append,
    List.map_cons, List.nodup_cons, own] at once
  refine once.1 (List.mem_map.mpr ⟨place, List.mem_append_left _ asleep, ?_⟩)
  rw [same]

/-! ### The match thread is alert -/

/-- The match thread sleeps only while there is nobody to pair, or a handler that has added a user
is about to notify it. -/
def MatchThreadAlert : MonitorState → Prop :=
  Covered (fun _ server => server.NobodyToPair) fun point _ => point = .addNotify

/-- Who is refused is not added. -/
theorem eq_of_refused {server after : Server} {userId : UserId} {user : Option Ref}
    (enqueued : server.enqueue userId user = .ok (after, false)) : after = server := by
  obtain ⟨info, _, rest⟩ := bind_eq_ok.mp enqueued
  split at rest
  · exact ((Prod.mk.inj (Except.ok.inj rest)).1).symm
  · simp [bind_eq_ok] at rest

/-- A cancel leaves nobody to pair where nobody was. -/
theorem nobodyToPair_dequeue {server after : Server} {userId : UserId} {user : Option Ref}
    {ret : Bool} (dequeued : server.dequeue userId user = .ok (after, ret))
    (nobody : server.NobodyToPair) : after.NobodyToPair := by
  obtain ⟨ref, info, _, _, ⟨_, rfl⟩ | ⟨_, rfl⟩⟩ := Server.dequeue_ok dequeued
  · exact nobody
  · intro i
    have few := nobody i
    by_cases same : i = MatchPool.band info.userPoints
    · subst same
      simp only [MatchPool.remove, Function.update_self]
      exact (List.length_filter_le _ _).trans few
    · simpa only [MatchPool.remove, Function.update_of_ne same] using few

/-- What handlers do without the mutex does not touch the queues. -/
theorem pool_outer {call : ManagerCall} {server after : Server}
    (outerEq : program.outer call server = .ok after) : after.pool = server.pool := by
  obtain ⟨threads, called, rfl⟩ := map_eq_ok.mp outerEq
  cases call with
  | login row conn =>
      obtain ⟨user, _, same⟩ := bind_eq_ok.mp called
      cases same
      rfl
  | removeOnlineUser userId erased =>
      cases called
      rfl
  | exitRoom userId =>
      obtain ⟨done, _, same⟩ := bind_eq_ok.mp called
      cases same
      rfl

/-- A step keeps the match thread alert. -/
theorem matchThreadAlert_step {state next : MonitorState} {event : MonitorEvent}
    (inOrder : InOrder state) (alert : MatchThreadAlert state)
    (stepEq : MatchMonitor.step state event = .ok next) : MatchThreadAlert next := by
  refine covered_step alert ?_ ?_ stepEq
  · rintro roomCount chosen holder after effect rfl holds actEq
    have own := inOrder.sound.own (holder.current.thread, holder.point) (by
      simp [State.places, holds])
    have idle : holder.point ≠ .addNotify → ∀ sleeper ∈ state.sleeping,
        state.shared.NobodyToPair := by
      intro noDebt sleeper asleep
      have covered := alert sleeper asleep
      simp only [holds, Option.mem_def, Option.some.injEq, exists_eq_left'] at covered
      exact covered.resolve_right noDebt
    have mine : Belongs .matchThread holder.point → state.sleeping = [] := by
      intro belongs
      refine inOrder.sleeping_nil holds ?_
      generalize holder.point = point at own belongs
      cases thread : holder.current.thread with
      | matchThread => rfl
      | handler other =>
          rw [thread] at own
          cases point <;> first | exact absurd belongs id | exact absurd own id
    have acted := acted_of_act actEq
    generalize holder.point = point at acted idle mine
    cases acted with
    | addFound | removeFound | unlocked =>
        exact (covered_apply_iff chosen (by simp)).mpr
          ⟨fun sleeper asleep => by simpa [Discharged] using idle (by simp) sleeper asleep, by simp⟩
    | added => exact (covered_apply_iff chosen (by simp)).mpr ⟨fun _ _ => .inr rfl, by simp⟩
    | refused enqueued =>
        rw [eq_of_refused enqueued]
        exact (covered_apply_iff chosen (by simp)).mpr
          ⟨fun sleeper asleep => idle (by simp) sleeper asleep, by simp⟩
    | notified => exact covered_notifyOne inOrder.length_sleeping _ _ chosen _
    | removed dequeued =>
        exact (covered_apply_iff chosen (by simp)).mpr ⟨fun sleeper asleep =>
          nobodyToPair_dequeue dequeued (idle (by simp) sleeper asleep), by simp⟩
    | waited nobody =>
        refine (covered_apply_iff chosen (by simp)).mpr ⟨?_, fun _ _ => nobody⟩
        rw [mine trivial]
        exact fun _ asleep => absurd asleep (by simp)
    | started | taken | skipped | finished | paired =>
        refine (covered_apply_iff chosen (by simp)).mpr ⟨?_, by simp⟩
        rw [mine trivial]
        exact fun _ asleep => absurd asleep (by simp)
  · intro call after _ outerEq _ nobody i
    rw [pool_outer outerEq]
    exact nobody i

/-- In every run the threads are in order and the match thread is alert. -/
theorem inOrder_alert_always (db : UserDB) (events : List MonitorEvent) :
    Always MatchMonitor.step (fun state => InOrder state ∧ MatchThreadAlert state)
      (.start (Server.new db)) events := by
  refine always_of_admissible ?_ ⟨inOrder_start _, covered_start _⟩
    (admissible_of_forall (fun _ _ => trivial) _ events)
  rintro state event next ⟨inOrder, alert⟩ _ stepEq
  exact ⟨inOrder_step inOrder stepEq, matchThreadAlert_step inOrder alert stepEq⟩

/-- However the handlers and the match thread interleave, whoever the notifications go to and
however often threads wake up for no reason: while the match thread sleeps un-notified, no queue has
two users, or the handler that has just added one holds the mutex and is about to notify it. -/
theorem matchThread_alert (db : UserDB) (events : List MonitorEvent) :
    Always MatchMonitor.step (fun state => ∀ point, (.matchThread, point) ∈ state.sleeping →
      state.shared.NobodyToPair ∨ ∃ holder ∈ state.holder, holder.point = .addNotify)
      (.start (Server.new db)) events := by
  exact (inOrder_alert_always db events).imp fun state good point asleep =>
    good.2 (.matchThread, point) asleep

/-! ### The calls in between -/

/-- A call without the mutex does not ask who holds it. -/
theorem step_threadCall (server : Server) (holder : Module.Holder) (call : ManagerCall) :
    Threads.step ⟨server, holder⟩ call.threadCall =
      (Threads.step ⟨server, .nobody⟩ call.threadCall).map fun threads =>
        ⟨threads.server, holder⟩ := by
  cases call with
  | login row conn =>
      simp only [ManagerCall.threadCall, Threads.step]
      cases Server.loadUser row conn <;> rfl
  | removeOnlineUser => rfl
  | exitRoom userId =>
      simp only [ManagerCall.threadCall, Threads.step]
      cases server.rooms.removeUser server.users userId <;> rfl

/-- An action of the holder is a call of `Threads`, or something that `Threads` does not see. -/
theorem exists_call_of_acted {roomCount : UInt32} {point : MatchPoint} {server after : Server}
    {effect : Effect MatchPoint} (acted : Acted roomCount server point after effect) :
    ∃ calls, run Threads.step ⟨server, holderOf point⟩ calls =
      .ok ⟨after, (effect.next.map holderOf).getD .nobody⟩ := by
  cases acted with
  | @addFound userId => exact ⟨[.lockToAdd userId], rfl⟩
  | added enqueued =>
      exact ⟨[.proceed roomCount], by simp [run, Threads.step, Threads.proceed, holderOf, enqueued,
        Effect.next]⟩
  | refused enqueued =>
      exact ⟨[.proceed roomCount], by simp [run, Threads.step, Threads.proceed, holderOf, enqueued,
        Effect.next]⟩
  | @removeFound userId => exact ⟨[.lockToRemove userId], rfl⟩
  | removed dequeued =>
      exact ⟨[.proceed roomCount], by simp [run, Threads.step, Threads.proceed, holderOf, dequeued,
        Effect.next]⟩
  | taken inside queued =>
      exact ⟨[.lockToMatch ⟨_, inside⟩], by simp [run, Threads.step, holderOf, queued,
        Effect.next]⟩
  | @paired i pc after later called =>
      refine ⟨[.proceed roomCount], ?_⟩
      cases later <;> simp [run, Threads.step, Threads.proceed, holderOf, called, Effect.next]
  | notified | unlocked | waited | started | skipped | finished => exact ⟨[], rfl⟩

/-- `Threads` does not see that a thread has just taken the mutex. -/
theorem holderOf_of_entry {thread : MatchUser} {point : MatchPoint}
    (enters : program.entry thread point = true) : holderOf point = .nobody := by
  cases point with
  | addEnqueue | removeDequeue | inBody =>
      cases thread <;> exact absurd enters (by simp [program, entry])
  | _ => rfl

/-- A step is matched by calls of `Threads`. -/
theorem exists_calls_of_step {state next : MonitorState} {event : MonitorEvent}
    (inOrder : InOrder state) (stepEq : MatchMonitor.step state event = .ok next) :
    ∃ calls, run Threads.step (threads state) calls = .ok (threads next) := by
  cases moved_of_step stepEq with
  | nothing | woke => exact ⟨[], rfl⟩
  | @entered thread point free outside entry =>
      have unseen := holderOf_of_entry entry
      exact ⟨[], by simp [threads, free, State.lock, unseen, run]⟩
  | @relocked place thread point free awake =>
      refine ⟨[], ?_⟩
      have same := inOrder.eq_matchThread (List.mem_append_right _ (List.mem_of_getElem? awake))
      cases same
      simp [threads, free, State.lock, holderOf, run]
  | @acted roomCount chosen holder shared effect holds actEq =>
      obtain ⟨calls, called⟩ := exists_call_of_acted (acted_of_act actEq)
      refine ⟨calls, ?_⟩
      have before : threads state = ⟨state.shared, holderOf holder.point⟩ := by
        simp [threads, holds]
      rw [before, called]
      cases effect <;> rfl
  | @outer call shared outerEq =>
      obtain ⟨after, called, rfl⟩ := map_eq_ok.mp outerEq
      refine ⟨[call.threadCall], ?_⟩
      simp only [run, threads]
      rw [step_threadCall, called]
      rfl

/-- Whatever the threads do around the mutex and the condition variable, with every wait, wake-up
and notification, is a run of the calls of `Threads`. -/
theorem refines_threads (db : UserDB) {events : List MonitorEvent} {last : MonitorState}
    (reached : run MatchMonitor.step (.start (Server.new db)) events = .ok last) :
    ∃ calls, run Threads.step (Threads.new db) calls = .ok (threads last) := by
  have simulates : ∀ state other event next, InOrder state ∧ threads state = other →
      MatchMonitor.step state event = .ok next → ∃ calls after,
        run Threads.step other calls = .ok after ∧ InOrder next ∧ threads next = after := by
    rintro state _ event next ⟨inOrder, rfl⟩ stepEq
    obtain ⟨calls, called⟩ := exists_calls_of_step inOrder stepEq
    exact ⟨calls, _, called, inOrder_step inOrder stepEq, rfl⟩
  obtain ⟨calls, final, called, _, rfl⟩ :=
    exists_run_of_simulates simulates ⟨inOrder_start _, rfl⟩ reached
  exact ⟨calls, called⟩

/-! ### Whoever can be paired will be -/

/-- The match thread has taken the first two users out of a queue. -/
def TakenFrom (server : Server) (i : Fin 3) (userId1 userId2 : UserId) (rest : List UserId)
    (next : MonitorState) : Prop :=
  next.shared = { server with pool := server.pool.popped i rest } ∧
    next.holder.map Monitor.Holder.point = some (.inBody i (.popped userId1 userId2))

/-- Somebody can be paired in a first queue. -/
theorem exists_first {server : Server} (somebody : ¬ server.NobodyToPair) :
    ∃ i userId1 userId2 rest, server.pool.queues i = userId1 :: userId2 :: rest ∧
      ∀ j < i, (server.pool.queues j).length ≤ 1 := by
  obtain ⟨some, long⟩ := Classical.not_forall.mp somebody
  obtain ⟨i, many, least⟩ := (measure (Fin.val : Fin 3 → Nat)).wf.has_min
    {i | ¬ (server.pool.queues i).length ≤ 1} ⟨some, long⟩
  refine ⟨i, ?_⟩
  match queued : server.pool.queues i with
  | [] | [_] => simp [queued] at many
  | userId1 :: userId2 :: rest =>
      refine ⟨userId1, userId2, rest, rfl, fun j below => ?_⟩
      exact Classical.not_not.mp fun other => least j other below

/-- The holder goes on to its next point. -/
theorem step_goOn {state : MonitorState} {holder : Monitor.Holder MatchUser MatchPoint UInt32}
    {roomCount : UInt32} {after : Server} {next : MatchPoint} (holds : state.holder = some holder)
    (actEq : act roomCount holder.point state.shared = .ok (after, .goOn next)) (chosen : Nat) :
    ∃ state' holder', MatchMonitor.step state (.act roomCount chosen) = .ok state' ∧
      state'.shared = after ∧ state'.holder = some holder' ∧ holder'.point = next := by
  refine ⟨{ state with shared := after }.apply (holder.reads roomCount) chosen (.goOn next),
    { holder.reads roomCount with point := next }, ?_, rfl, rfl, rfl⟩
  simp only [MatchMonitor.step, Monitor.step, holds, program, actEq]

/-- From any queue before it, the `for` loop comes to the first one with two users. -/
theorem forQueue_takes {i : Fin 3} {userId1 userId2 : UserId} {rest : List UserId}
    (roomCount : UInt32) (chosen distance : Nat) {state : MonitorState}
    {holder : Monitor.Holder MatchUser MatchPoint UInt32} (holds : state.holder = some holder)
    {j : Nat} (here : holder.point = .forQueue j) (apart : j + distance = i)
    (queued : state.shared.pool.queues i = userId1 :: userId2 :: rest)
    (short : ∀ k < i, (state.shared.pool.queues k).length ≤ 1) :
    ∃ next, run MatchMonitor.step state (List.replicate (distance + 1) (.act roomCount chosen)) =
      .ok next ∧ TakenFrom state.shared i userId1 userId2 rest next := by
  induction distance generalizing state holder j with
  | zero =>
      obtain rfl : j = i := apart
      have actEq : act roomCount holder.point state.shared =
          .ok ({ state.shared with pool := state.shared.pool.popped i rest },
            .goOn (.inBody i (.popped userId1 userId2))) := by
        simp [here, act, i.isLt, queued]
      obtain ⟨state', holder', stepEq, shared, holds', point⟩ := step_goOn holds actEq chosen
      refine ⟨state', by simp [run, stepEq], shared, ?_⟩
      rw [holds', Option.map_some, point]
  | succ distance inductionHypothesis =>
      have inside : j < 3 := by omega
      have actEq : act roomCount holder.point state.shared =
          .ok (state.shared, .goOn (.forQueue (j + 1))) := by
        have few := short ⟨j, inside⟩ (by rw [Fin.lt_def]; simp only; omega)
        rw [here]
        rcases found : state.shared.pool.queues ⟨j, inside⟩ with _ | ⟨_, _ | ⟨_, _⟩⟩
        · simp [act, inside, found]
        · simp [act, inside, found]
        · simp [found] at few
      obtain ⟨state', holder', stepEq, shared, holds', point⟩ := step_goOn holds actEq chosen
      obtain ⟨next, reached, taken⟩ := inductionHypothesis holds' point (by omega)
        (by rw [shared, queued]) (by rw [shared]; exact short)
      refine ⟨next, ?_, shared ▸ taken⟩
      rw [List.replicate_succ, run, stepEq]
      exact reached

/-- The match thread asks for the mutex, for the first time or after a wake-up. -/
def AsksForMutex (state : MonitorState) : MonitorEvent → Prop
  | .enter thread point => thread = .matchThread ∧ point = .whileNobody
  | .relock place => state.woken[place]? = some (.matchThread, .whileNobody)
  | _ => False

/-- With the mutex free and somebody to pair, the match thread gets the mutex when it asks for it.
-/
theorem exists_lock {state : MonitorState} (inOrder : InOrder state)
    (alert : MatchThreadAlert state) (free : state.holder = none)
    (somebody : ¬ state.shared.NobodyToPair) :
    ∃ asks next holder, AsksForMutex state asks ∧ MatchMonitor.step state asks = .ok next ∧
      next.shared = state.shared ∧ next.holder = some holder ∧ holder.point = .whileNobody := by
  have awake : state.sleeping = [] := by
    rw [List.eq_nil_iff_forall_not_mem]
    exact fun place asleep => somebody (Covered.idle_of_free alert free asleep)
  cases woken : state.woken with
  | nil =>
      refine ⟨.enter .matchThread .whileNobody, state.lock .matchThread .whileNobody, _,
        ⟨rfl, rfl⟩, ?_, rfl, rfl, rfl⟩
      simp [MatchMonitor.step, Monitor.step, State.places, free, awake, woken, program, entry]
  | cons place others =>
      obtain rfl : place = (.matchThread, .whileNobody) :=
        inOrder.eq_matchThread (by simp [woken])
      refine ⟨.relock 0, { state with woken := others }.lock .matchThread .whileNobody, _, ?_, ?_,
        rfl, rfl, rfl⟩
      · simp [AsksForMutex, woken]
      · simp [MatchMonitor.step, Monitor.step, free, woken]

/-- In every reachable state in which the mutex is free and some queue has two users, the match
thread is not asleep, and its own next steps, whatever they read, take the first two users out of
the first such queue: it gets the mutex, tests the queues and walks over the shorter ones. -/
theorem pairs_next {db : UserDB} {events : List MonitorEvent} {state : MonitorState}
    (reached : run MatchMonitor.step (.start (Server.new db)) events = .ok state)
    (free : state.holder = none) (somebody : ¬ state.shared.NobodyToPair) (roomCount : UInt32)
    (chosen : Nat) :
    ∃ i userId1 userId2 rest, state.shared.pool.queues i = userId1 :: userId2 :: rest ∧
      (∀ j < i, (state.shared.pool.queues j).length ≤ 1) ∧
      ∃ asks next, AsksForMutex state asks ∧ run MatchMonitor.step state
        (asks :: List.replicate (i + 2) (.act roomCount chosen)) = .ok next ∧
          TakenFrom state.shared i userId1 userId2 rest next := by
  have good : InOrder state ∧ MatchThreadAlert state := by
    have always := inOrder_alert_always db events
    exact always.last reached
  obtain ⟨i, userId1, userId2, rest, queued, short⟩ := exists_first somebody
  obtain ⟨asks, locked, holder, asking, lockEq, shared, holds, here⟩ :=
    exists_lock good.1 good.2 free somebody
  have actEq : act roomCount holder.point locked.shared =
      .ok (locked.shared, .goOn (.forQueue 0)) := by
    rw [here, shared]
    simp [act, somebody]
  obtain ⟨looping, holder', stepEq, shared', holds', point⟩ := step_goOn holds actEq chosen
  rw [shared] at shared'
  obtain ⟨next, ran, taken⟩ := forQueue_takes roomCount chosen i holds' point (Nat.zero_add _)
    (by rw [shared', queued]) (by rw [shared']; exact short)
  refine ⟨i, userId1, userId2, rest, queued, short, asks, next, asking, ?_, shared' ▸ taken⟩
  rw [run, lockEq]
  simp only [List.replicate_succ (n := (i : Nat) + 1), run, stepEq]
  exact ran

/-- Ann and Bob log in and ask to be matched, before the match thread has started. -/
def bothAsk : List MonitorEvent :=
  [.outer (.login (UserDB.newRow 1 "ann" "") 10), .outer (.login (UserDB.newRow 2 "bob" "") 11),
    .enter (.handler 0) (.addLookup 1)] ++ List.replicate 4 (.act 0 0) ++
      [.enter (.handler 1) (.addLookup 2)] ++ List.replicate 4 (.act 0 0)

/-- The match thread takes the two. -/
theorem pairs_next_bothAsk :
    ∃ state, run MatchMonitor.step (.start (Server.new annAndBob)) bothAsk = .ok state ∧
      ∃ i userId1 userId2 rest, state.shared.pool.queues i = userId1 :: userId2 :: rest ∧
        (∀ j < i, (state.shared.pool.queues j).length ≤ 1) ∧
        ∃ asks next, AsksForMutex state asks ∧ run MatchMonitor.step state
          (asks :: List.replicate (i + 2) (.act 7 0)) = .ok next ∧
            TakenFrom state.shared i userId1 userId2 rest next := by
  have observed : (run MatchMonitor.step (.start (Server.new annAndBob)) bothAsk).toOption.map
      (fun state => (state.holder.isNone, decide state.shared.NobodyToPair)) =
        some (true, false) := by
    decide +kernel
  cases reached : run MatchMonitor.step (.start (Server.new annAndBob)) bothAsk with
  | error fault => simp [reached, Except.toOption] at observed
  | ok state =>
      simp only [reached, Except.toOption, Option.map_some, Option.some.injEq, Prod.mk.injEq,
        Option.isNone_iff_eq_none, decide_eq_false_iff_not] at observed
      exact ⟨state, rfl, pairs_next reached observed.1 observed.2 7 0⟩

/-- The match thread sleeps before the two come, and pairs them when it wakes up. -/
def sleepAndPair : List MonitorEvent :=
  [.enter .matchThread .whileNobody, .act 0 0] ++ bothAsk ++ [.relock 0] ++
    List.replicate 5 (.act 7 0)

/-- That is a run of `Threads`. -/
theorem refines_threads_sleepAndPair :
    ∃ last, run MatchMonitor.step (.start (Server.new annAndBob)) sleepAndPair = .ok last ∧
      ∃ calls, run Threads.step (Threads.new annAndBob) calls = .ok (threads last) := by
  have returns : (run MatchMonitor.step (.start (Server.new annAndBob)) sleepAndPair).isOk =
      true := by
    decide +kernel
  obtain ⟨last, reached⟩ := exists_last_of_isOk returns
  exact ⟨last, reached, refines_threads annAndBob reached⟩

end GomukuServer.Proofs.MatchWakeups
