/-
Module: GomukuServer.Proofs.LoopTurns
Layer: Proofs
Purpose: Every connection belongs to one loop.  The loops are chosen in turn, so that none of them
  has more than one connection more than another has been given, and all that is ever handed to a
  loop about a connection is handed to its own loop: first what starts it, and then what ends it, as
  often as the calls remove it.
Trusted boundary: none
Main exports: turn, getNextLoop_eq, tasksOf, enabledBy, createdBy, Handed, Served, load,
  served_always
-/
import GomukuServer.Base.Runs
import GomukuServer.MyMuduo.TcpServer
import Mathlib.Data.Int.CardIntervalMod

namespace GomukuServer.Proofs.LoopTurns

open Base Base.Runs MyMuduo MyMuduo.TcpServer

/-! ### Turns -/

/-- The place in the vector of the loop that is chosen after `count` others. -/
def place (pool : EventLoopThreadPool) (count : Nat) : Nat :=
  (pool.next + count) % pool.loops.length

/-- The loop that is chosen after `count` others. -/
def turn (pool : EventLoopThreadPool) (count : Nat) : LoopId :=
  (pool.loops[place pool count]?).getD pool.baseLoop

/-- `getNextLoop` takes the loop whose turn it is, and all others move up. -/
theorem getNextLoop_eq (pool : EventLoopThreadPool) :
    pool.getNextLoop.1 = turn pool 0 ∧ pool.getNextLoop.2.loops = pool.loops ∧
      ∀ count, turn pool.getNextLoop.2 count = turn pool (count + 1) := by
  unfold EventLoopThreadPool.getNextLoop
  split
  · rename_i nonempty
    have inside := pool.inside nonempty
    refine ⟨?_, rfl, fun count => ?_⟩
    · simp [turn, place, Nat.mod_eq_of_lt inside, List.getElem?_eq_getElem inside]
    · have same : ((if pool.loops.length ≤ pool.next + 1 then 0 else pool.next + 1) + count) %
          pool.loops.length = (pool.next + (count + 1)) % pool.loops.length := by
        split
        · have last : pool.next + (count + 1) = count + pool.loops.length := by omega
          rw [last, Nat.add_mod_right, Nat.zero_add]
        · rw [Nat.add_assoc, Nat.add_comm 1]
      simp only [turn, place, same]
  · rename_i empty
    have none : pool.loops = [] := not_not.mp empty
    simp [turn, none]

/-! ### Tasks -/

/-- The connection that a task is about. -/
def connOf : ConnectionTask → Ref
  | .enableInactiveReleaseInLoop conn _ => conn
  | .connectEstablished conn => conn
  | .connectDestroyed conn => conn

/-- What has been handed to loops about a connection, in order. -/
def tasksOf (conn : Ref) (tasks : List (LoopId × ConnectionTask)) :
    List (LoopId × ConnectionTask) :=
  tasks.filter fun task => connOf task.2 = conn

/-- The timeouts of the last call that enables the release, if there is one. -/
def enabledBy (calls : List TcpServerCall) : Option Int :=
  (calls.filterMap fun
    | .setEnableInactiveRelease timeouts => some timeouts
    | _ => none).getLast?

/-- How many connections the calls create. -/
def createdBy (calls : List TcpServerCall) : Nat :=
  calls.countP fun
    | .newConnection .. => true
    | _ => false

/-- What the calls hand to loops about a connection: the start of its timer, if the release is
enabled by the calls before the one that creates the connection, then its start, and then its end
once for each call that removes it. -/
structure Handed (calls : List TcpServerCall) (held : Accepted) (conn : Ref)
    (tasks : List (LoopId × ConnectionTask)) : Prop where
  inOrder : ∃ before after,
    calls = before ++ .newConnection held.sockfd held.localAddr held.peerAddr :: after ∧
    createdBy before = conn ∧
    tasks = ((enabledBy before).toList.map fun timeouts =>
        (held.loop, .enableInactiveReleaseInLoop conn timeouts)) ++
      (held.loop, .connectEstablished conn) ::
        List.replicate (after.count (.removeConnectionInLoop conn))
          (held.loop, .connectDestroyed conn)

/-- After these calls the connections have been given to the loops in turn, and have been handed
their tasks there. -/
structure Served (pool : EventLoopThreadPool) (calls : List TcpServerCall) (server : TcpServer) :
    Prop where
  loops : server.threadPool.loops = pool.loops
  coming : ∀ count, turn server.threadPool count = turn pool (server.connections.next + count)
  created : server.connections.next = createdBy calls
  enabled : (if server.enableInactiveRelease then some server.timeouts else none) = enabledBy calls
  given : ∀ conn held, server.connections.deref conn = some held → held.loop = turn pool conn
  handed : ∀ conn held, server.connections.deref conn = some held →
    Handed calls held conn (tasksOf conn server.tasks)
  nothing : ∀ conn, server.connections.next ≤ conn → tasksOf conn server.tasks = []

variable {pool : EventLoopThreadPool} {calls : List TcpServerCall} {server next : TcpServer}

theorem tasksOf_append (conn : Ref) (first second : List (LoopId × ConnectionTask)) :
    tasksOf conn (first ++ second) = tasksOf conn first ++ tasksOf conn second :=
  List.filter_append ..

/-- The start of a connection is about it alone. -/
theorem tasksOf_startTasks (server : TcpServer) (ioLoop : LoopId) (conn other : Ref) :
    tasksOf other (server.startTasks ioLoop conn) =
      if other = conn then server.startTasks ioLoop conn else [] := by
  by_cases same : other = conn
  · subst same
    unfold startTasks
    split <;> simp [tasksOf, connOf]
  · have away : ¬ conn = other := Ne.symm same
    unfold startTasks
    rw [if_neg same]
    split <;> simp [tasksOf, connOf, away]

/-- A call that does not remove the connection. -/
theorem Handed.append {held : Accepted} {conn : Ref} {tasks : List (LoopId × ConnectionTask)}
    (handed : Handed calls held conn tasks) {call : TcpServerCall}
    (other : call ≠ .removeConnectionInLoop conn) : Handed (calls ++ [call]) held conn tasks := by
  obtain ⟨before, after, rfl, first, tasksEq⟩ := handed.inOrder
  refine ⟨before, after ++ [call], by simp, first, ?_⟩
  rw [List.count_append, List.count_singleton, if_neg (by simpa using other), Nat.add_zero]
  exact tasksEq

/-- A connection that is removed once more. -/
theorem Handed.again {held : Accepted} {conn : Ref} {tasks : List (LoopId × ConnectionTask)}
    (handed : Handed calls held conn tasks) :
    Handed (calls ++ [.removeConnectionInLoop conn]) held conn
      (tasks ++ [(held.loop, .connectDestroyed conn)]) := by
  obtain ⟨before, after, rfl, first, rfl⟩ := handed.inOrder
  refine ⟨before, after ++ [.removeConnectionInLoop conn], by simp, first, ?_⟩
  rw [List.append_assoc, List.cons_append, List.count_append, List.count_singleton_self,
    List.replicate_succ']

/-- What `newConnection` changes, with the loop and the threads named. -/
theorem newConnection_ok {sockfd : Int} {localAddr peerAddr : InetAddress}
    (called : server.newConnection sockfd localAddr peerAddr = .ok next) :
    next.threadPool = server.threadPool.getNextLoop.2 ∧
      (∃ id name, next.connections = server.connections.alloc
        ⟨server.threadPool.getNextLoop.1, id, name, sockfd, localAddr, peerAddr⟩) ∧
      next.tasks = server.tasks ++
        server.startTasks server.threadPool.getNextLoop.1 server.connections.next ∧
      next.enableInactiveRelease = server.enableInactiveRelease ∧
      next.timeouts = server.timeouts := by
  obtain ⟨name, _, built⟩ := bind_eq_ok.mp called
  have made := (Except.ok.inj built).symm
  exact ⟨congrArg threadPool made, ⟨_, name, congrArg connections made⟩, congrArg tasks made,
    by rw [made], by rw [made]⟩

/-- The start of a connection that the next call creates. -/
theorem Served.handed_start (served : Served pool calls server) (held : Accepted) :
    Handed (calls ++ [.newConnection held.sockfd held.localAddr held.peerAddr]) held
      server.connections.next (server.startTasks held.loop server.connections.next) := by
  refine ⟨calls, [], rfl, served.created.symm, ?_⟩
  rw [← served.enabled, startTasks]
  split <;> rfl

theorem Served.newConnection (served : Served pool calls server) {sockfd : Int}
    {localAddr peerAddr : InetAddress}
    (called : server.newConnection sockfd localAddr peerAddr = .ok next) :
    Served pool (calls ++ [.newConnection sockfd localAddr peerAddr]) next := by
  obtain ⟨threads, ⟨id, name, connections⟩, tasks, release, timeouts⟩ := newConnection_ok called
  obtain ⟨chosen, loops, later⟩ := getNextLoop_eq server.threadPool
  have mine : server.threadPool.getNextLoop.1 = turn pool server.connections.next := by
    rw [chosen, served.coming, Nat.add_zero]
  constructor
  · rw [threads, loops, served.loops]
  · intro count
    rw [threads, connections, Heap.next_alloc, later, served.coming]
    congr 1
    omega
  · rw [connections, Heap.next_alloc, served.created]
    simp [createdBy]
  · rw [release, timeouts, served.enabled]
    simp [enabledBy]
  · intro conn held there
    rw [connections, Heap.deref_alloc] at there
    split at there
    · rename_i same
      obtain rfl := Option.some.inj there
      rw [same]
      exact mine
    · exact served.given conn held there
  · intro conn held there
    rw [connections, Heap.deref_alloc] at there
    rw [tasks, tasksOf_append, tasksOf_startTasks]
    split at there
    · rename_i same
      obtain rfl := Option.some.inj there
      rw [if_pos same, served.nothing conn (Nat.le_of_eq same.symm), List.nil_append, same]
      exact served.handed_start ⟨_, id, name, sockfd, localAddr, peerAddr⟩
    · rename_i other
      rw [if_neg other, List.append_nil]
      exact (served.handed conn held there).append (by simp)
  · intro conn fresh
    rw [connections, Heap.next_alloc] at fresh
    rw [tasks, tasksOf_append, tasksOf_startTasks, if_neg (Nat.ne_of_gt fresh), List.append_nil]
    exact served.nothing conn (Nat.le_of_succ_le fresh)

theorem Served.removeConnectionInLoop (served : Served pool calls server) {conn : Ref}
    (called : server.removeConnectionInLoop conn = .ok next) :
    Served pool (calls ++ [.removeConnectionInLoop conn]) next := by
  unfold TcpServer.removeConnectionInLoop at called
  split at called
  · cases called
  · rename_i accepted there
    obtain rfl := Except.ok.inj called
    have ended (other : Ref) : tasksOf other [(accepted.loop, .connectDestroyed conn)] =
        if conn = other then [(accepted.loop, .connectDestroyed conn)] else [] := by
      by_cases same : conn = other <;> simp [tasksOf, connOf, same]
    constructor
    · exact served.loops
    · exact served.coming
    · simpa [createdBy] using served.created
    · simpa [enabledBy] using served.enabled
    · exact served.given
    · intro other held found
      rw [tasksOf_append, ended]
      split
      · rename_i same
        subst same
        obtain rfl := Option.some.inj (there.symm.trans found)
        exact (served.handed conn accepted there).again
      · rename_i away
        rw [List.append_nil]
        exact (served.handed other held found).append (by simpa using away)
    · intro other fresh
      have before := Heap.lt_next_of_deref there
      rw [tasksOf_append, ended, if_neg (Nat.ne_of_lt (Nat.lt_of_lt_of_le before fresh)),
        List.append_nil]
      exact served.nothing other fresh

theorem Served.setEnableInactiveRelease (served : Served pool calls server) (timeouts : Int) :
    Served pool (calls ++ [.setEnableInactiveRelease timeouts])
      (server.setEnableInactiveRelease timeouts) where
  loops := served.loops
  coming := served.coming
  created := by simpa [createdBy, TcpServer.setEnableInactiveRelease] using served.created
  enabled := by simp [enabledBy, TcpServer.setEnableInactiveRelease]
  given := served.given
  handed conn held there := (served.handed conn held there).append (by simp)
  nothing := served.nothing

/-- A call keeps all of it. -/
theorem Served.step (served : Served pool calls server) {call : TcpServerCall}
    (stepEq : server.step call = .ok next) : Served pool (calls ++ [call]) next := by
  cases call with
  | setEnableInactiveRelease timeouts =>
      obtain rfl := Except.ok.inj stepEq
      exact served.setEnableInactiveRelease timeouts
  | newConnection sockfd localAddr peerAddr => exact served.newConnection stepEq
  | removeConnectionInLoop conn => exact served.removeConnectionInLoop stepEq

theorem served_new {listenAddr : InetAddress} {nameArg : String}
    (built : TcpServer.new listenAddr nameArg pool = .ok server) : Served pool [] server := by
  obtain ⟨ipPort, _, built⟩ := bind_eq_ok.mp built
  obtain rfl := Except.ok.inj built
  constructor
  · rfl
  · intro count
    simp [Heap.next, Heap.empty]
  · rfl
  · rfl
  · intro conn held there
    simp at there
  · intro conn held there
    simp at there
  · intro conn _
    rfl

/-- So all of it holds after any calls. -/
theorem served_of_run {listenAddr : InetAddress} {nameArg : String}
    (built : TcpServer.new listenAddr nameArg pool = .ok server)
    (reached : run TcpServer.step server calls = .ok next) : Served pool calls next :=
  history_of_run (fun _ _ _ _ served stepEq => served.step stepEq) (served_new built) reached

/-! ### Loads -/

/-- How many connections a loop has been given. -/
def load (server : TcpServer) (loop : LoopId) : Nat :=
  server.connections.cells.countP fun accepted => accepted.loop = loop

/-- The connections come to their loops in the order of the turns. -/
theorem Served.loops_eq (served : Served pool calls server) :
    server.connections.cells.map Accepted.loop =
      (List.range server.connections.next).map (turn pool) := by
  apply List.ext_getElem
  · simp [Heap.next]
  · intro conn inside _
    rw [List.length_map] at inside
    simpa using served.given conn _ (List.getElem?_eq_getElem inside)

/-- Whose turn it is depends on the number of the turn, up to whole rounds. -/
theorem place_eq_iff {i : Nat} (inside : i < pool.loops.length) (count : Nat) :
    place pool count = i ↔ count ≡ i + (pool.loops.length - pool.next) [MOD pool.loops.length] := by
  have first : pool.next < pool.loops.length :=
    pool.inside (List.ne_nil_of_length_pos (Nat.lt_of_le_of_lt (Nat.zero_le i) inside))
  have round : pool.next + (i + (pool.loops.length - pool.next)) ≡ i [MOD pool.loops.length] := by
    have whole : pool.next + (i + (pool.loops.length - pool.next)) = i + pool.loops.length := by
      omega
    rw [whole]
    exact Nat.add_mod_right i _
  have here : place pool count = i ↔ pool.next + count ≡ i [MOD pool.loops.length] := by
    rw [place, Nat.ModEq, Nat.mod_eq_of_lt inside]
  rw [here]
  constructor
  · intro same
    exact (same.trans round.symm).add_left_cancel' _
  · intro same
    exact (same.add_left _).trans round

/-- A loop has been given a connection in every whole round, and perhaps one in the last. -/
theorem Served.load_eq (served : Served pool calls server) (distinct : pool.loops.Nodup) {i : Nat}
    (inside : i < pool.loops.length) :
    load server pool.loops[i] = server.connections.next / pool.loops.length ∨
      load server pool.loops[i] = server.connections.next / pool.loops.length + 1 := by
  have positive : 0 < pool.loops.length := Nat.lt_of_le_of_lt (Nat.zero_le i) inside
  have turns (count : Nat) : turn pool count = pool.loops[i] ↔
      count ≡ i + (pool.loops.length - pool.next) [MOD pool.loops.length] := by
    have there : place pool count < pool.loops.length := Nat.mod_lt _ positive
    rw [← place_eq_iff inside, turn, List.getElem?_eq_getElem there, Option.getD_some]
    exact distinct.getElem_inj_iff
  have counted : load server pool.loops[i] = Nat.count
      (· ≡ i + (pool.loops.length - pool.next) [MOD pool.loops.length])
      server.connections.next := by
    have mapped : load server pool.loops[i] =
        (server.connections.cells.map Accepted.loop).countP fun loop => loop = pool.loops[i] := by
      rw [List.countP_map]
      rfl
    rw [mapped, served.loops_eq, List.countP_map, Nat.count]
    congr 1
    funext count
    simp [turns]
  rw [counted, Nat.count_modEq_card _ positive]
  split
  · exact .inr rfl
  · exact .inl rfl

/-- Whatever the server is called for, and in whatever order, up to any of the calls: each
connection lives in the loop whose turn it was, what has been handed to loops about it has been
handed to this one, its start, with the timer if it was enabled, before its end, which comes once
for each removal, and no loop has been given more than one connection more than another. -/
theorem served_always {listenAddr : InetAddress} {nameArg : String}
    (distinct : pool.loops.Nodup)
    (built : TcpServer.new listenAddr nameArg pool = .ok server) {last : TcpServer}
    (reached : run TcpServer.step server calls = .ok last) :
    Served pool calls last ∧
      ∀ loop ∈ pool.loops, ∀ other ∈ pool.loops, load last loop ≤ load last other + 1 := by
  have served := served_of_run built reached
  refine ⟨served, fun loop mine other yours => ?_⟩
  obtain ⟨i, first, rfl⟩ := List.getElem_of_mem mine
  obtain ⟨j, second, rfl⟩ := List.getElem_of_mem yours
  have more := served.load_eq distinct first
  have less := served.load_eq distinct second
  omega

/-- Three connections in two loops.  The second and the third come when the release is enabled, and
the first is removed twice. -/
def threeConnections : List TcpServerCall :=
  [.newConnection 5 ⟨0, 0, 0, 0, 1000⟩ ⟨0, 0, 0, 0, 2000⟩, .setEnableInactiveRelease 10,
    .newConnection 6 ⟨0, 0, 0, 0, 1000⟩ ⟨0, 0, 0, 0, 2001⟩, .removeConnectionInLoop 0,
    .newConnection 7 ⟨0, 0, 0, 0, 1000⟩ ⟨0, 0, 0, 0, 2002⟩, .removeConnectionInLoop 0]

/-- They are handed to their loops in turn. -/
theorem served_always_twoLoops :
    ∃ server last, TcpServer.new ⟨0, 0, 0, 0, 1000⟩ "server" ⟨0, [1, 2], 0, by decide⟩ =
        .ok server ∧
      run TcpServer.step server threeConnections = .ok last ∧
      (Served ⟨0, [1, 2], 0, by decide⟩ threeConnections last ∧
        ∀ loop ∈ [1, 2], ∀ other ∈ [1, 2], load last loop ≤ load last other + 1) ∧
      tasksOf 0 last.tasks =
        [(1, .connectEstablished 0), (1, .connectDestroyed 0), (1, .connectDestroyed 0)] ∧
      tasksOf 1 last.tasks =
        [(2, .enableInactiveReleaseInLoop 1 10), (2, .connectEstablished 1)] := by
  have seen : ((TcpServer.new ⟨0, 0, 0, 0, 1000⟩ "server" ⟨0, [1, 2], 0, by decide⟩).bind
      fun server => run TcpServer.step server threeConnections).toOption.map
        (fun last => (tasksOf 0 last.tasks, tasksOf 1 last.tasks)) =
      some ([(1, .connectEstablished 0), (1, .connectDestroyed 0), (1, .connectDestroyed 0)],
        [(2, .enableInactiveReleaseInLoop 1 10), (2, .connectEstablished 1)]) := by
    decide +kernel
  cases built : TcpServer.new ⟨0, 0, 0, 0, 1000⟩ "server" ⟨0, [1, 2], 0, by decide⟩ with
  | error fault => simp [built, Except.bind, Except.toOption] at seen
  | ok server =>
      cases reached : run TcpServer.step server threeConnections with
      | error fault => simp [built, reached, Except.bind, Except.toOption] at seen
      | ok last =>
          simp only [built, reached, Except.bind, Except.toOption, Option.map_some,
            Option.some.injEq, Prod.mk.injEq] at seen
          exact ⟨server, last, rfl, reached, served_always (by decide) built reached, seen⟩

end GomukuServer.Proofs.LoopTurns
