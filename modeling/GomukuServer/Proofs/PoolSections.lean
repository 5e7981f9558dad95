/-
Module: GomukuServer.Proofs.PoolSections
Layer: Proofs
Purpose: The threads of the connection pool, action by action, refine the pool whose calls are made
  one after the other: whatever the interleaving, the pool is what the calls make of it in the order
  in which they have given the mutex up.
Trusted boundary: none
Main exports: perform_agrees, calls_of_threads
-/
import GomukuServer.Db.PoolThreads

namespace GomukuServer.Proofs.PoolSections

open Base Base.Runs Base.Monitor Db Db.MysqlConnectionPool Db.PoolThreads

/-- Where a thread takes the mutex, for the first time or after a wait. -/
def Opening : PoolPoint → Prop
  | .whileEmpty | .timedOut | .refresh _ | .whileNotEmpty | .whileMore => True
  | _ => False

/-- Threads take the mutex nowhere else. -/
theorem opens_program : Opens program Opening where
  entry := by
    intro thread point enters
    cases thread <;> cases point <;> trivial
  timeout := by
    intro point opening
    cases point <;> trivial
  waits := by
    intro point now pool after again waits
    cases point <;> simp only [program, act] at waits <;> grind [Opening]

/-- `getMysqlConnection` from the test of its loop on. -/
theorem perform_whileEmpty (pool : MysqlConnectionPool) (inputs : List Int) :
    Agrees (.ok pool.getMysqlConnection) (perform program pool .whileEmpty inputs) := by
  cases queue : pool.connectionQue with
  | nil =>
      cases inputs with
      | nil => trivial
      | cons => simp [perform, program, act, queue, Effect.next, Agrees, getMysqlConnection]
  | cons ref rest =>
      rcases inputs with _ | ⟨_, _ | ⟨_, _ | ⟨_, _ | ⟨_, _ | ⟨_, _⟩⟩⟩⟩⟩
      all_goals simp [perform, program, act, queue, Effect.next, Agrees, getMysqlConnection]

/-- `getMysqlConnection` after a timeout: it gives up, or it goes back to its loop. -/
theorem perform_timedOut (pool : MysqlConnectionPool) (inputs : List Int) :
    Agrees (.ok pool.getMysqlConnection) (perform program pool .timedOut inputs) := by
  cases inputs with
  | nil => trivial
  | cons now inputs =>
      by_cases empty : pool.connectionQue = []
      · simp [perform, program, act, empty, Effect.next, Agrees, getMysqlConnection]
      · have again := perform_whileEmpty pool inputs
        simpa [perform, program, act, empty, Effect.next] using again

/-- The deleter of a shared pointer. -/
theorem perform_refresh (pool : MysqlConnectionPool) (borrower : Nat) (inputs : List Int) :
    Agrees (pool.release borrower ((inputs[0]?).getD 0))
      (perform program pool (.refresh borrower) inputs) := by
  cases inputs with
  | nil => trivial
  | cons now inputs =>
      cases borrowed : pool.borrowed[borrower]? with
      | none => simp [perform, program, act, borrowed, Effect.next, Agrees, release]
      | some ref =>
          cases object : Owned.object pool.connections ref with
          | none => simp [perform, program, act, borrowed, object, Agrees, release]
          | some connection =>
              rcases inputs with _ | ⟨_, _ | ⟨_, _⟩⟩
              all_goals
                simp [perform, program, act, borrowed, object, Effect.next, Agrees, release]

/-- A round of the producer. -/
theorem perform_whileNotEmpty (pool : MysqlConnectionPool) (inputs : List Int) :
    Agrees (.ok (pool.produceConnectionTask ((inputs[1]?).getD 0)))
      (perform program pool .whileNotEmpty inputs) := by
  by_cases empty : pool.connectionQue = []
  · by_cases room : pool.connectionCnt < pool.settings.maxSize
    · rcases inputs with _ | ⟨_, _ | ⟨_, _ | ⟨_, _ | ⟨_, _ | ⟨_, _ | ⟨_, _⟩⟩⟩⟩⟩⟩
      all_goals
        simp [perform, program, act, empty, room, Effect.next, Agrees, produceConnectionTask,
          pushNew]
    · rcases inputs with _ | ⟨_, _ | ⟨_, _ | ⟨_, _ | ⟨_, _⟩⟩⟩⟩
      all_goals
        simp [perform, program, act, empty, room, Effect.next, Agrees, produceConnectionTask]
  · cases inputs with
    | nil => trivial
    | cons =>
        simp [perform, program, act, empty, Effect.next, Agrees, produceConnectionTask]

/-- What a pass of the scanner has left to do. -/
def remaining (pool : MysqlConnectionPool) (clock : Nat → Int) (round : Nat) :
    Except Fault MysqlConnectionPool :=
  (reclaim pool.settings clock round pool.connectionQue pool.connectionCnt pool.connections).map
    fun (connectionQue, connectionCnt, connections) =>
      { pool with
        connections := connections
        connectionQue := connectionQue
        connectionCnt := connectionCnt }

/-- The scanner stops when there are not too many connections. -/
theorem perform_whileMore_enough {pool : MysqlConnectionPool} (clock : Nat → Int) (round : Nat)
    (inputs : List Int) (enough : ¬ pool.settings.initSize < pool.connectionCnt) :
    Agrees (remaining pool clock round) (perform program pool .whileMore inputs) := by
  cases inputs with
  | nil => trivial
  | cons =>
      cases pool with
      | mk settings connections connectionQue =>
          simp only at enough
          cases connectionQue <;>
            simp [perform, program, act, enough, Effect.next, Agrees, remaining, reclaim,
              Except.map]

/-- The loop of the scanner, in any of its rounds.  By induction on the queue, of which each round
takes one. -/
theorem perform_whileMore (clock : Nat → Int) (queue : List Ref) {pool : MysqlConnectionPool}
    {round : Nat} {inputs : List Int} (queued : pool.connectionQue = queue)
    (readings : ∀ later now, inputs[5 * later + 1]? = some now → clock (round + later) = now) :
    Agrees (remaining pool clock round) (perform program pool .whileMore inputs) := by
  induction queue generalizing pool round inputs with
  | nil =>
      by_cases more : pool.settings.initSize < pool.connectionCnt
      · rcases inputs with _ | ⟨_, _ | ⟨_, _⟩⟩
        all_goals
          simp [perform, program, act, queued, more, Effect.next, Agrees, remaining, reclaim,
            Except.map]
      · exact perform_whileMore_enough clock round inputs more
  | cons ref rest inductionHypothesis =>
      by_cases more : pool.settings.initSize < pool.connectionCnt
      · rcases inputs with _ | ⟨_, _ | ⟨now, inputs⟩⟩
        · trivial
        · simp [perform, program, act, more, Effect.next, Agrees]
        · have reading : clock round = now := readings 0 now rfl
          cases object : Owned.object pool.connections ref with
          | none =>
              simp [perform, program, act, queued, more, object, Effect.next, Agrees, remaining,
                reclaim, Except.map]
          | some connection =>
              by_cases idle : idleLimit pool.settings ≤ now - connection.alivetime
              · rcases inputs with _ | ⟨_, _ | ⟨_, _ | ⟨_, inputs⟩⟩⟩
                · simp [perform, program, act, queued, more, object, idle, Effect.next, Agrees]
                · simp [perform, program, act, queued, more, object, idle, Effect.next, Agrees]
                · simp [perform, program, act, queued, more, object, idle, Effect.next, Agrees]
                · have later := @inductionHypothesis { pool with
                    connectionQue := rest
                    connectionCnt := pool.connectionCnt - 1
                    connections := Owned.delete pool.connections ref } (round + 1) inputs rfl
                    fun later now read => by
                      have same := readings (later + 1) now (by simpa [Nat.mul_add] using read)
                      rwa [Nat.add_assoc, Nat.add_comm 1 later]
                  simpa [perform, program, act, queued, more, object, idle, reading, Effect.next,
                    remaining, reclaim] using later
              · cases pool
                simp only at queued more object idle
                simp [perform, program, act, queued, more, object, idle, reading, Effect.next,
                  Agrees, remaining, reclaim, Except.map]
      · exact perform_whileMore_enough clock round inputs more

/-- A pass of the scanner. -/
theorem scannerConnectionTask_eq (pool : MysqlConnectionPool) (clock : Nat → Int) :
    pool.scannerConnectionTask clock = remaining pool clock 0 := by
  unfold scannerConnectionTask remaining
  cases reclaim pool.settings clock 0 pool.connectionQue pool.connectionCnt pool.connections <;> rfl

/-- The call of a section does what the section does. -/
theorem perform_agrees (pool : MysqlConnectionPool) (done : Section PoolThread PoolPoint Int)
    (opening : Opening done.entered) :
    Agrees (pool.step (callOf done)) (perform program pool done.entered done.inputs) := by
  obtain ⟨thread, entered, inputs⟩ := done
  cases entered with
  | whileEmpty => exact perform_whileEmpty pool inputs
  | timedOut => exact perform_timedOut pool inputs
  | refresh borrower => exact perform_refresh pool borrower inputs
  | whileNotEmpty => exact perform_whileNotEmpty pool inputs
  | whileMore =>
      have pass := @perform_whileMore (clockOf inputs) pool.connectionQue pool 0 inputs rfl
        fun later now read => by simp [clockOf, read]
      rwa [← scannerConnectionTask_eq] at pass
  | front | pop | notifyTaken | giveBack | create | push | countUp | notifyMade | look | drop
  | countDown | delete | unlock => exact absurd opening id

/-- In every run of the threads, the pool that the mutex protects is what the calls of the completed
sections make of a new pool in the order in which they have given the mutex up; while a section is
under way, what it started from is.  The threads fault only where calls fault. -/
theorem calls_of_threads (settings : Settings) (clock : Nat → Int)
    (events : List (Event PoolThread PoolPoint Int Empty)) :
    (∀ last, run PoolThreads.step (.start (new settings clock)) events = .ok last →
      ∃ before, run MysqlConnectionPool.step (new settings clock) (last.completed.map callOf) =
          .ok before ∧ InSection program Opening before last.shared last.holder) ∧
    ∀ fault, run PoolThreads.step (.start (new settings clock)) events = .error fault →
      ∃ calls, run MysqlConnectionPool.step (new settings clock) calls = .error fault :=
  calls_of_run opens_program perform_agrees (new settings clock) fun _ _ call => nomatch call

/-- The producer sleeps beside a full queue, a caller takes the only connection, and the producer
makes another one. -/
def takeAndRefill : List (Event PoolThread PoolPoint Int Empty) :=
  [.enter .producer .whileNotEmpty, .act 0 0, .enter (.caller 1) .whileEmpty] ++
    List.replicate 5 (.act 0 0) ++ [.relock 0] ++ List.replicate 6 (.act 5 0)

/-- The three sections are three calls. -/
theorem calls_of_threads_takeAndRefill :
    ∃ last, run PoolThreads.step (.start (new ⟨1, 2, 60⟩ fun _ => 0)) takeAndRefill = .ok last ∧
      last.completed.length = 3 ∧ ∃ before,
        run MysqlConnectionPool.step (new ⟨1, 2, 60⟩ fun _ => 0) (last.completed.map callOf) =
          .ok before ∧ InSection program Opening before last.shared last.holder := by
  have observed : (run PoolThreads.step (.start (new ⟨1, 2, 60⟩ fun _ => 0))
      takeAndRefill).toOption.map (fun last => last.completed.length) = some 3 := by
    decide +kernel
  cases reached : run PoolThreads.step (.start (new ⟨1, 2, 60⟩ fun _ => 0)) takeAndRefill with
  | error fault => simp [reached, Except.toOption] at observed
  | ok last =>
      simp only [reached, Except.toOption, Option.map_some, Option.some.injEq] at observed
      exact ⟨last, rfl, observed,
        (calls_of_threads ⟨1, 2, 60⟩ (fun _ => 0) takeAndRefill).1 last reached⟩

end GomukuServer.Proofs.PoolSections
