/-
Module: GomukuServer.MyMuduo.InactiveRelease
Layer: MyMuduo
Purpose: The inactivity timer of a `TcpConnection`: the connection has a task on the wheel of its
  loop, every event of its channel refreshes the task, and the callback of the task is `shutdown`.
Trusted boundary: the object is alive while its task is
Main exports: TimedConnection, handleEvent, enableInactiveReleaseInLoop,
  cancelInactiveReleaseInLoop, onTime, connectDestroyed, step
-/
import GomukuServer.MyMuduo.TcpConnection
import GomukuServer.MyMuduo.TimerWheel

namespace GomukuServer.MyMuduo

open Base

/-- `TcpConnection` as far as its timer is concerned, with the wheel of its loop.  `onTimerTasks`
are the tasks whose callback is `shutdown` of this connection, and `timedOut` records the steps of
the wheel in which a callback has shut it down. -/
structure TimedConnection where
  id : TaskId
  state : StateE
  enableInactiveRelease : Bool
  timer : TimerWheel
  onTimerTasks : List Ref
  timedOut : List Nat

/-- What happens to a connection in its loop, once it is established: the event callback of its
channel, a step of the wheel, `shutdown` by its user, `handlerClose`, `connectDestroyed`, or a call
of the wheel for another connection. -/
inductive TimedCall where
  | handleEvent
  | wheelRunOne
  | shutdown
  | handlerClose
  | connectDestroyed
  | elsewhere (call : TimerCall)
deriving DecidableEq, Repr

namespace TimedConnection

/-- `uint32_t` from `int`. -/
def toDelay (timeouts : Int) : UInt32 := UInt32.ofNat (timeouts % 2 ^ 32).toNat

/-- A connection that has just been built, for a loop with this wheel. -/
def new (timer : TimerWheel) (id : TaskId) : TimedConnection where
  id := id
  state := .kConnecting
  enableInactiveRelease := false
  timer := timer
  onTimerTasks := []
  timedOut := []

/-- `TimerRefresh` with the id of the connection. -/
def timerRefresh (conn : TimedConnection) : Except Fault TimedConnection := do
  let timer ← conn.timer.timerTaskRefreshInLoop conn.id
  pure { conn with timer := timer }

/-- `handleEvent`. -/
def handleEvent (conn : TimedConnection) : Except Fault TimedConnection :=
  if conn.enableInactiveRelease then conn.timerRefresh else .ok conn

/-- `enableInactiveReleaseInLoop`. -/
def enableInactiveReleaseInLoop (conn : TimedConnection) (timeouts : Int) :
    Except Fault TimedConnection :=
  let conn := { conn with enableInactiveRelease := true }
  if conn.timer.timerTaskIsExist conn.id then conn.timerRefresh
  else
    .ok { conn with
      timer := conn.timer.timerTaskAddInLoop conn.id (toDelay timeouts)
      onTimerTasks := conn.onTimerTasks ++ [conn.timer.tasks.next] }

/-- `cancelInactiveReleaseInLoop`. -/
def cancelInactiveReleaseInLoop (conn : TimedConnection) : TimedConnection :=
  let conn := { conn with enableInactiveRelease := false }
  if conn.timer.timerTaskIsExist conn.id then
    { conn with timer := conn.timer.timerTaskCancelInLoop conn.id }
  else conn

/-- `connectEstablished`. -/
def connectEstablished (conn : TimedConnection) : TimedConnection :=
  { conn with state := .kConnected }

/-- `shutdown`. -/
def shutdown (conn : TimedConnection) : TimedConnection :=
  if conn.state = .kConnected then { conn with state := .kDisconnecting } else conn

/-- `handlerClose`. -/
def handlerClose (conn : TimedConnection) : TimedConnection := { conn with state := .kDisconnected }

/-- `connectDestroyed`. -/
def connectDestroyed (conn : TimedConnection) : TimedConnection :=
  let conn := if conn.state = .kConnected then { conn with state := .kDisconnected } else conn
  if conn.timer.timerTaskIsExist conn.id then conn.cancelInactiveReleaseInLoop else conn

/-- The callback of a task: `shutdown`, if the task is one of this connection. -/
def onTimerTask (conn : TimedConnection) (entry : Nat × Ref) : TimedConnection :=
  if entry.2 ∈ conn.onTimerTasks then
    { conn.shutdown with
      timedOut := if conn.state = .kConnected then conn.timedOut ++ [entry.1] else conn.timedOut }
  else conn

/-- `WheelRunOne`, with the callbacks that it runs. -/
def wheelRunOne (conn : TimedConnection) : TimedConnection :=
  let timer := conn.timer.wheelRunOne
  (timer.fired.drop conn.timer.fired.length).foldl onTimerTask { conn with timer := timer }

/-- Make a call. -/
def step (conn : TimedConnection) : TimedCall → Except Fault TimedConnection
  | .handleEvent => conn.handleEvent
  | .wheelRunOne => .ok conn.wheelRunOne
  | .shutdown => .ok conn.shutdown
  | .handlerClose => .ok conn.handlerClose
  | .connectDestroyed => .ok conn.connectDestroyed
  | .elsewhere call => do
      let timer ← conn.timer.step call
      pure { conn with timer := timer }

/-- A connection that is not up any more is not shut down again. -/
theorem onTimerTask_of_down {conn : TimedConnection} (down : conn.state ≠ .kConnected)
    (entry : Nat × Ref) : conn.onTimerTask entry = conn := by
  unfold onTimerTask shutdown
  simp [down]

theorem foldl_onTimerTask_of_down {conn : TimedConnection} (down : conn.state ≠ .kConnected)
    (entries : List (Nat × Ref)) : entries.foldl onTimerTask conn = conn := by
  induction entries with
  | nil => rfl
  | cons entry entries inductionHypothesis =>
      rw [List.foldl_cons, onTimerTask_of_down down, inductionHypothesis]

/-- The callbacks of other tasks leave the connection alone. -/
theorem foldl_onTimerTask_of_others {conn : TimedConnection} {entries : List (Nat × Ref)}
    (others : ∀ entry ∈ entries, entry.2 ∉ conn.onTimerTasks) :
    entries.foldl onTimerTask conn = conn := by
  induction entries with
  | nil => rfl
  | cons entry entries inductionHypothesis =>
      have first : conn.onTimerTask entry = conn := if_neg (others entry (by simp))
      rw [List.foldl_cons, first]
      exact inductionHypothesis fun other member => others other (by simp [member])

/-- A callback of its own task shuts a connection down that is up. -/
theorem foldl_onTimerTask_of_own {conn : TimedConnection} (up : conn.state = .kConnected)
    {entries : List (Nat × Ref)} (own : ∃ entry ∈ entries, entry.2 ∈ conn.onTimerTasks) :
    ∃ tick, entries.foldl onTimerTask conn =
      { conn with state := .kDisconnecting, timedOut := conn.timedOut ++ [tick] } := by
  induction entries with
  | nil => simp at own
  | cons entry entries inductionHypothesis =>
      rw [List.foldl_cons]
      by_cases here : entry.2 ∈ conn.onTimerTasks
      · have first : conn.onTimerTask entry =
            { conn with state := .kDisconnecting, timedOut := conn.timedOut ++ [entry.1] } := by
          unfold onTimerTask shutdown
          simp [here, up]
        refine ⟨entry.1, ?_⟩
        rw [first]
        exact foldl_onTimerTask_of_down (by simp) entries
      · have first : conn.onTimerTask entry = conn := if_neg here
        rw [first]
        refine inductionHypothesis ?_
        obtain ⟨other, member, inside⟩ := own
        rcases List.mem_cons.mp member with rfl | later
        · exact absurd inside here
        · exact ⟨other, later, inside⟩

end TimedConnection

end GomukuServer.MyMuduo
