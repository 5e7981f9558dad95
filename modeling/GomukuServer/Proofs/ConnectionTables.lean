/-
Module: GomukuServer.Proofs.ConnectionTables
Layer: Proofs
Purpose: The two tables of the server.  Every accepted connection gets a number and a name that no
  other has, so it stays in both tables until it is removed, and is then told to end once.
Trusted boundary: none
Main exports: Proper, Exact, connection_tables_exact
-/
import GomukuServer.Base.Runs
import GomukuServer.MyMuduo.TcpServer
import Mathlib.Data.List.Induction

namespace GomukuServer.Proofs.ConnectionTables

open Base Base.Printf Base.Runs MyMuduo MyMuduo.TcpServer

/-! ### The calls -/

/-- How many connections the calls accept. -/
def accepted : List TcpServerCall → Nat
  | [] => 0
  | .newConnection .. :: calls => accepted calls + 1
  | _ :: calls => accepted calls

/-- Which connections the calls remove. -/
def removed : List TcpServerCall → List Ref
  | [] => []
  | .removeConnectionInLoop conn :: calls => conn :: removed calls
  | _ :: calls => removed calls

/-- Fewer than `2 ^ 31` connections are accepted, and each is removed once at most, after it has
been accepted. -/
structure Proper (calls : List TcpServerCall) : Prop where
  few : accepted calls < 2 ^ 31
  once : ∀ past conn future, calls = past ++ .removeConnectionInLoop conn :: future →
    conn < accepted past ∧ conn ∉ removed past

theorem accepted_append (past future : List TcpServerCall) :
    accepted (past ++ future) = accepted past + accepted future := by
  induction past with
  | nil => simp [accepted]
  | cons call past inductionHypothesis =>
      cases call with
      | newConnection sockfd localAddr peerAddr =>
          simp only [List.cons_append, accepted, inductionHypothesis]
          omega
      | setEnableInactiveRelease timeouts => exact inductionHypothesis
      | removeConnectionInLoop conn => exact inductionHypothesis

theorem removed_append (past future : List TcpServerCall) :
    removed (past ++ future) = removed past ++ removed future := by
  induction past with
  | nil => rfl
  | cons call past inductionHypothesis =>
      cases call with
      | removeConnectionInLoop conn => exact congrArg (conn :: ·) inductionHypothesis
      | setEnableInactiveRelease timeouts => exact inductionHypothesis
      | newConnection sockfd localAddr peerAddr => exact inductionHypothesis

theorem Proper.past {past future : List TcpServerCall} (proper : Proper (past ++ future)) :
    Proper past where
  few := by
    have few := proper.few
    rw [accepted_append] at few
    omega
  once := by
    rintro before conn after rfl
    exact proper.once before conn (after ++ future) (by simp)

/-! ### The tables -/

/-- A connection that was accepted and has not been removed. -/
def Alive (calls : List TcpServerCall) (server : TcpServer) (conn : Ref) (held : Accepted) : Prop :=
  server.connections.deref conn = some held ∧ conn ∉ removed calls

/-- After the calls the accepted connections have different names, with nothing cut off; each of the
two tables holds those that have not been removed, under their own keys; and `connectDestroyed` has
been queued once for each of the others, in its own loop. -/
structure Exact (calls : List TcpServerCall) (server : TcpServer) : Prop where
  all : ∀ conn, (∃ held, server.connections.deref conn = some held) ↔ conn < accepted calls
  names : ∀ conn held, server.connections.deref conn = some held →
    held.name = server.fullName (conn + 1)
  distinct : ∀ conn other held otherHeld, server.connections.deref conn = some held →
    server.connections.deref other = some otherHeld → held.name = otherHeld.name → conn = other
  byName : server.connectionMap.Indexes
    fun conn name => ∃ held, Alive calls server conn held ∧ held.name = name
  byId : server.connectionIdMap.Indexes
    fun conn id => ∃ held, Alive calls server conn held ∧ ofId held.id = id
  destroyed : ∀ conn, (server.tasks.map Prod.snd).count (.connectDestroyed conn) =
    if conn ∈ removed calls then 1 else 0
  ownLoop : ∀ loop conn, (loop, .connectDestroyed conn) ∈ server.tasks →
    ∃ held, server.connections.deref conn = some held ∧ held.loop = loop

/-- The invariant of runs.  The number of a connection is one more than its place in the order of
acceptance, and that is what the tables rest on. -/
structure Maintained (calls : List TcpServerCall) (server : TcpServer) : Prop where
  address : Printed server.ipPort 23
  next : server.connections.next = accepted calls
  counter : server.nextConnId = accepted calls
  ids : ∀ conn held, server.connections.deref conn = some held → ofId held.id = (conn + 1 : Nat)
  names : ∀ conn held, server.connections.deref conn = some held →
    held.name = server.fullName (conn + 1)
  gone : ∀ conn ∈ removed calls, conn < accepted calls
  byName : server.connectionMap.Indexes
    fun conn name => ∃ held, Alive calls server conn held ∧ held.name = name
  byId : server.connectionIdMap.Indexes
    fun conn id => ∃ held, Alive calls server conn held ∧ ofId held.id = id
  destroyed : ∀ conn, (server.tasks.map Prod.snd).count (.connectDestroyed conn) =
    if conn ∈ removed calls then 1 else 0
  ownLoop : ∀ loop conn, (loop, .connectDestroyed conn) ∈ server.tasks →
    ∃ held, server.connections.deref conn = some held ∧ held.loop = loop

namespace Maintained

variable {calls : List TcpServerCall} {server : TcpServer}

theorem lt_accepted (maintained : Maintained calls server) {conn : Ref} {held : Accepted}
    (there : server.connections.deref conn = some held) : conn < accepted calls := by
  rw [← maintained.next]
  exact Heap.lt_next_of_deref there

/-- The next connection is another one. -/
theorem ne_accepted (maintained : Maintained calls server) {conn : Ref} {held : Accepted}
    (there : server.connections.deref conn = some held) : conn ≠ accepted calls :=
  Nat.ne_of_lt (maintained.lt_accepted there)

/-- Different connections have different names. -/
theorem distinct (maintained : Maintained calls server) {conn other : Ref}
    {held otherHeld : Accepted} (there : server.connections.deref conn = some held)
    (otherThere : server.connections.deref other = some otherHeld)
    (same : held.name = otherHeld.name) : conn = other := by
  rw [maintained.names conn held there, maintained.names other otherHeld otherThere] at same
  exact Nat.succ.inj (fullName_injective same)

/-- The invariant says all that is to be said of the tables. -/
theorem isExact (maintained : Maintained calls server) : Exact calls server where
  all := by
    intro conn
    constructor
    · rintro ⟨held, there⟩
      exact maintained.lt_accepted there
    · intro inside
      rw [← maintained.next] at inside
      exact ⟨_, List.getElem?_eq_getElem inside⟩
  names := maintained.names
  distinct := fun _ _ _ _ there otherThere => maintained.distinct there otherThere
  byName := maintained.byName
  byId := maintained.byId
  destroyed := maintained.destroyed
  ownLoop := maintained.ownLoop

end Maintained

/-! ### Single calls -/

/-- An `int` that is not negative comes back from a `uint64_t`. -/
theorem ofId_toId {number : Nat} (small : number < 2 ^ 31) : ofId (toId number) = number := by
  have value : ((number : Int) % 2 ^ 64).toNat = number := by omega
  have whole : (UInt64.ofNat number).toNat = number := by
    rw [UInt64.toNat_ofNat']
    omega
  have same : Int.bmod number (2 ^ 32) = number := Int.bmod_eq_of_le (by omega) (by omega)
  unfold ofId toId
  rw [value, whole, same]

/-- What `newConnection` does. -/
structure Admits (server : TcpServer) (number : Nat) (held : Accepted) (next : TcpServer) :
    Prop where
  frame : next.ipPort = server.ipPort ∧ next.name = server.name
  counter : next.nextConnId = number
  heldName : held.name = server.fullName number
  heldId : ofId held.id = number
  connections : next.connections = server.connections.alloc held
  byName : next.connectionMap = server.connectionMap.insert held.name server.connections.next
  byId : next.connectionIdMap = server.connectionIdMap.insert number server.connections.next
  tasks : next.tasks = server.tasks ++ server.startTasks held.loop server.connections.next

/-- The next connection gets the next number and the name that goes with it. -/
theorem newConnection_admits {calls : List TcpServerCall} {server : TcpServer}
    (maintained : Maintained calls server) (few : accepted calls + 1 < 2 ^ 31) (sockfd : Int)
    (localAddr peerAddr : InetAddress) :
    ∃ held next, server.newConnection sockfd localAddr peerAddr = .ok next ∧
      Admits server (accepted calls + 1) held next := by
  have counter : Int.bmod (server.nextConnId + 1) (2 ^ 32) = (accepted calls + 1 : Nat) := by
    rw [maintained.counter]
    exact Int.bmod_eq_of_le (by omega) (by omega)
  have name := connName_eq maintained.address (show accepted calls + 1 < 10 ^ 10 by omega)
  let held : Accepted := ⟨server.threadPool.getNextLoop.1, toId (accepted calls + 1 : Nat),
    server.fullName (accepted calls + 1), sockfd, localAddr, peerAddr⟩
  refine ⟨held, { server with
      threadPool := server.threadPool.getNextLoop.2
      nextConnId := (accepted calls + 1 : Nat)
      connections := server.connections.alloc held
      connectionMap := server.connectionMap.insert held.name server.connections.next
      connectionIdMap := server.connectionIdMap.insert (accepted calls + 1 : Nat)
        server.connections.next
      tasks := server.tasks ++ server.startTasks held.loop server.connections.next }, ?_,
    ⟨⟨rfl, rfl⟩, rfl, rfl, ofId_toId few, rfl, rfl, rfl, rfl⟩⟩
  unfold newConnection
  simp only [counter, name, ok_bind, pure_eq_ok, held]

/-- No connection is told to end before it has begun. -/
theorem notMem_startTasks (server : TcpServer) (loop other : LoopId) (conn ended : Ref) :
    (other, .connectDestroyed ended) ∉ server.startTasks loop conn := by
  unfold startTasks
  split <;> simp

theorem count_startTasks (server : TcpServer) (loop : LoopId) (conn ended : Ref) :
    ((server.startTasks loop conn).map Prod.snd).count (.connectDestroyed ended) = 0 := by
  rw [List.count_eq_zero]
  intro inside
  obtain ⟨⟨other, task⟩, listed, rfl⟩ := List.mem_map.mp inside
  exact notMem_startTasks server loop other conn ended listed

section

variable {calls more : List TcpServerCall} {server next : TcpServer} {held : Accepted}

/-- The new connection is behind the others. -/
theorem Admits.deref (admits : Admits server (accepted calls + 1) held next)
    (maintained : Maintained calls server) (conn : Ref) : next.connections.deref conn =
      if conn = accepted calls then some held else server.connections.deref conn := by
  rw [admits.connections, Heap.deref_alloc, maintained.next]

/-- Under some key those are there that were, and the new one. -/
theorem Admits.alive_iff (admits : Admits server (accepted calls + 1) held next)
    (maintained : Maintained calls server) (same : removed more = removed calls) {Key : Type}
    (key : Accepted → Key) (conn : Ref) (name : Key) :
    (∃ other, Alive more next conn other ∧ key other = name) ↔
      (∃ other, Alive calls server conn other ∧ key other = name) ∨
        (conn = accepted calls ∧ name = key held) := by
  simp only [Alive, admits.deref maintained, same]
  constructor
  · rintro ⟨other, ⟨there, kept⟩, rfl⟩
    split at there
    · rename_i new
      obtain rfl := Option.some.inj there
      exact .inr ⟨new, rfl⟩
    · exact .inl ⟨other, ⟨there, kept⟩, rfl⟩
  · rintro (⟨other, ⟨there, kept⟩, rfl⟩ | ⟨rfl, rfl⟩)
    · exact ⟨other, ⟨by rw [if_neg (maintained.ne_accepted there), there], kept⟩, rfl⟩
    · exact ⟨held, ⟨if_pos rfl, fun dead => Nat.lt_irrefl _ (maintained.gone _ dead)⟩, rfl⟩

/-- A new connection comes into both tables. -/
theorem maintained_admits (maintained : Maintained calls server)
    (admits : Admits server (accepted calls + 1) held next)
    (count : accepted more = accepted calls + 1) (same : removed more = removed calls) :
    Maintained more next := by
  have numbered : server.connections.next = accepted calls := maintained.next
  have deref := admits.deref maintained
  have fullName (number : Nat) : next.fullName number = server.fullName number := by
    simp only [TcpServer.fullName, admits.frame]
  refine ⟨?_, ?_, ?_, ?_, ?_, ?_, ?_, ?_, ?_, ?_⟩
  · rw [admits.frame.1]
    exact maintained.address
  · rw [admits.connections, Heap.next_alloc, numbered, count]
  · rw [admits.counter, count]
  · intro conn other there
    rw [deref] at there
    split at there
    · rename_i new
      obtain rfl := Option.some.inj there
      rw [new]
      exact admits.heldId
    · exact maintained.ids conn other there
  · intro conn other there
    rw [fullName]
    rw [deref] at there
    split at there
    · rename_i new
      obtain rfl := Option.some.inj there
      rw [new]
      exact admits.heldName
    · exact maintained.names conn other there
  · rw [count, same]
    exact fun conn dead => Nat.lt_succ_of_lt (maintained.gone conn dead)
  · rw [admits.byName, numbered]
    refine (maintained.byName.insert _ ?_).congr (admits.alive_iff maintained same Accepted.name)
    rintro conn ⟨other, ⟨there, _⟩, equal⟩
    rw [maintained.names conn other there, admits.heldName] at equal
    exact maintained.ne_accepted there (Nat.succ.inj (fullName_injective equal))
  · rw [admits.byId, numbered]
    have heldKey : ((accepted calls + 1 : Nat) : Int) = ofId held.id := admits.heldId.symm
    rw [heldKey]
    refine (maintained.byId.insert _ ?_).congr
      (admits.alive_iff maintained same fun other => ofId other.id)
    rintro conn ⟨other, ⟨there, _⟩, equal⟩
    rw [maintained.ids conn other there, admits.heldId] at equal
    exact maintained.ne_accepted there (Nat.succ.inj (Int.ofNat_inj.mp equal))
  · intro conn
    rw [admits.tasks, List.map_append, List.count_append, count_startTasks, same]
    exact maintained.destroyed conn
  · intro loop conn listed
    rw [admits.tasks, List.mem_append] at listed
    rcases listed with before | started
    · obtain ⟨other, there, own⟩ := maintained.ownLoop loop conn before
      exact ⟨other, by rw [deref, if_neg (maintained.ne_accepted there), there], own⟩
    · exact absurd started (notMem_startTasks server held.loop loop _ conn)

end

/-- A connection that is removed leaves both tables, and no other does. -/
theorem maintained_removeConnectionInLoop {calls : List TcpServerCall} {server : TcpServer}
    (maintained : Maintained calls server) {conn : Ref} (inside : conn < accepted calls)
    (kept : conn ∉ removed calls) :
    ∃ next, server.removeConnectionInLoop conn = .ok next ∧
      Maintained (calls ++ [.removeConnectionInLoop conn]) next := by
  have count : accepted (calls ++ [.removeConnectionInLoop conn]) = accepted calls :=
    accepted_append _ _
  have same : removed (calls ++ [.removeConnectionInLoop conn]) = removed calls ++ [conn] :=
    removed_append _ _
  obtain ⟨held, there⟩ := (maintained.isExact.all conn).mpr inside
  have alive {Key : Type} (key : Accepted → Key) (other : Ref) (name : Key) :
      (∃ one, (server.connections.deref other = some one ∧ other ∉ removed calls ++ [conn]) ∧
          key one = name) ↔
        (∃ one, Alive calls server other one ∧ key one = name) ∧ other ≠ conn := by
    simp only [Alive, List.mem_append, List.mem_singleton, not_or]
    constructor
    · rintro ⟨one, ⟨present, alive, differs⟩, equal⟩
      exact ⟨⟨one, ⟨present, alive⟩, equal⟩, differs⟩
    · rintro ⟨⟨one, ⟨present, alive⟩, equal⟩, differs⟩
      exact ⟨one, ⟨present, alive, differs⟩, equal⟩
  have only {Key : Type} (key : Accepted → Key) (name : Key)
      (found : ∃ one, Alive calls server conn one ∧ key one = name) : name = key held := by
    obtain ⟨one, ⟨present, _⟩, rfl⟩ := found
    obtain rfl := Option.some.inj (there.symm.trans present)
    rfl
  refine ⟨{ server with
      connectionMap := server.connectionMap.erase held.name
      connectionIdMap := server.connectionIdMap.erase (ofId held.id)
      tasks := server.tasks ++ [(held.loop, .connectDestroyed conn)] }, ?_, ?_⟩
  · rw [removeConnectionInLoop, there]
  refine ⟨maintained.address, ?_, ?_, maintained.ids, maintained.names, ?_, ?_, ?_, ?_, ?_⟩
  · rw [count]
    exact maintained.next
  · rw [count]
    exact maintained.counter
  · rw [count, same]
    intro other dead
    rcases List.mem_append.mp dead with before | now
    · exact maintained.gone other before
    · exact List.mem_singleton.mp now ▸ inside
  · refine (maintained.byName.erase ⟨held, ⟨there, kept⟩, rfl⟩ (only Accepted.name)).congr ?_
    simp only [Alive, same]
    exact alive Accepted.name
  · refine (maintained.byId.erase ⟨held, ⟨there, kept⟩, rfl⟩
      (only fun one => ofId one.id)).congr ?_
    simp only [Alive, same]
    exact alive fun one => ofId one.id
  · intro other
    have before := maintained.destroyed other
    simp only [List.map_append, List.map_cons, List.map_nil, List.count_append,
      List.count_singleton, same, List.mem_append, List.mem_singleton, before, beq_iff_eq,
      ConnectionTask.connectDestroyed.injEq]
    by_cases now : other = conn
    · subst now
      simp [kept]
    · simp [now, Ne.symm now]
  · intro loop other listed
    rcases List.mem_append.mp listed with before | now
    · exact maintained.ownLoop loop other before
    · obtain ⟨rfl, rfl⟩ : loop = held.loop ∧ other = conn := by simpa using now
      exact ⟨held, there, rfl⟩

/-- The setting of a timeout is no matter of the tables. -/
theorem maintained_setEnableInactiveRelease {calls : List TcpServerCall} {server : TcpServer}
    (maintained : Maintained calls server) (timeouts : Int) :
    Maintained (calls ++ [.setEnableInactiveRelease timeouts])
      (server.setEnableInactiveRelease timeouts) := by
  have count : accepted (calls ++ [.setEnableInactiveRelease timeouts]) = accepted calls :=
    accepted_append _ _
  have same : removed (calls ++ [.setEnableInactiveRelease timeouts]) = removed calls := by
    rw [removed_append]
    exact List.append_nil _
  obtain ⟨address, next, counter, ids, names, gone, byName, byId, destroyed, ownLoop⟩ := maintained
  unfold Alive at byName byId
  refine ⟨address, ?_, ?_, ids, names, ?_, ?_, ?_, ?_, ownLoop⟩
  · rw [count]
    exact next
  · rw [count]
    exact counter
  · rw [count, same]
    exact gone
  · simp only [Alive, same]
    exact byName
  · simp only [Alive, same]
    exact byId
  · rw [same]
    exact destroyed

/-! ### Runs -/

/-- At first there is no connection. -/
theorem maintained_new (listenAddr : InetAddress) (nameArg : String)
    (threadPool : EventLoopThreadPool) :
    ∃ server, TcpServer.new listenAddr nameArg threadPool = .ok server ∧ Maintained [] server := by
  obtain ⟨ipPort, printed, address⟩ := listenAddr.getIpPort_eq
  refine ⟨_, by rw [TcpServer.new, printed]; rfl, address, rfl, rfl, ?_, ?_, ?_, ?_, ?_, ?_, ?_⟩
  · simp
  · simp
  · simp [removed]
  · exact PMap.Indexes.empty.congr (by simp [Alive])
  · exact PMap.Indexes.empty.congr (by simp [Alive])
  · simp [removed]
  · simp

/-- The calls return and keep the invariant. -/
theorem maintained_run {start : TcpServer} (begun : Maintained [] start)
    {calls : List TcpServerCall} (proper : Proper calls) :
    ∃ server, run TcpServer.step start calls = .ok server ∧ Maintained calls server := by
  induction calls using List.reverseRecOn with
  | nil => exact ⟨start, rfl, begun⟩
  | append_singleton calls call inductionHypothesis =>
      obtain ⟨server, reached, maintained⟩ := inductionHypothesis proper.past
      have one : ∃ next, TcpServer.step server call = .ok next ∧
          Maintained (calls ++ [call]) next := by
        cases call with
        | setEnableInactiveRelease timeouts =>
            exact ⟨_, rfl, maintained_setEnableInactiveRelease maintained timeouts⟩
        | newConnection sockfd localAddr peerAddr =>
            have few := proper.few
            rw [accepted_append] at few
            obtain ⟨held, next, called, admits⟩ :=
              newConnection_admits maintained few sockfd localAddr peerAddr
            exact ⟨next, called, maintained_admits maintained admits (accepted_append _ _)
              ((removed_append _ _).trans (List.append_nil _))⟩
        | removeConnectionInLoop conn =>
            obtain ⟨inside, kept⟩ := proper.once calls conn [] rfl
            exact maintained_removeConnectionInLoop maintained inside kept
      obtain ⟨next, stepEq, good⟩ := one
      exact ⟨next, by rw [run_append reached]; simp only [run, stepEq], good⟩

/-- For every listening address, server name and thread pool, and for all calls by which fewer than
`2 ^ 31` connections are accepted and each is removed once at most: the calls return, and afterwards
the names are different, both tables hold exactly the connections that have not been removed, and
`connectDestroyed` has been queued once for each of the others. -/
theorem connection_tables_exact (listenAddr : InetAddress) (nameArg : String)
    (threadPool : EventLoopThreadPool) (calls : List TcpServerCall) (proper : Proper calls) :
    ∃ start server, TcpServer.new listenAddr nameArg threadPool = .ok start ∧
      run TcpServer.step start calls = .ok server ∧ Exact calls server := by
  obtain ⟨start, made, begun⟩ := maintained_new listenAddr nameArg threadPool
  obtain ⟨server, reached, maintained⟩ := maintained_run begun proper
  exact ⟨start, server, made, reached, maintained.isExact⟩

/-- An address for the server and its clients. -/
def localhost : InetAddress := ⟨127, 0, 0, 1, 8888⟩

/-- Three connections, of which the first is removed before the third comes. -/
def threeConnections : List TcpServerCall :=
  [.newConnection 7 localhost localhost, .newConnection 8 localhost localhost,
    .removeConnectionInLoop 0, .newConnection 7 localhost localhost]

/-- They are kept as they should be. -/
theorem connection_tables_exact_three :
    ∃ start server, TcpServer.new localhost "GomukuServer" ⟨0, [1, 2], 0, fun _ => by decide⟩ =
      .ok start ∧ run TcpServer.step start threeConnections = .ok server ∧
        Exact threeConnections server := by
  refine connection_tables_exact localhost "GomukuServer" _ threeConnections ⟨by decide, ?_⟩
  intro past conn future equal
  rcases past with _ | ⟨_, _ | ⟨_, _ | ⟨_, _ | ⟨_, past⟩⟩⟩⟩ <;> simp [threeConnections] at equal
  obtain ⟨rfl, rfl, rfl, rfl⟩ := equal
  decide

end GomukuServer.Proofs.ConnectionTables
