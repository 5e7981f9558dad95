/-
Module: GomukuServer.Module.ByteServer
Layer: Module
Purpose: The server as the network sees it: connections come up, chunks of bytes arrive on them in
  any order and of any length, each into the input buffer of its connection, and connections go
  down.  What the handlers get is what the dispatcher makes of the buffers.
Trusted boundary: JsonCpp is a parameter; a chunk is handled to its end before the next one
Main exports: ByteEvent, ByteServer, ByteServer.step, intake, intakes, step_eq
-/
import GomukuServer.Module.Dispatch

namespace GomukuServer.Module

open Base Base.Runs Model Manager Db Net MyMuduo

/-- What happens at the sockets, and the turns of the match thread. -/
inductive ByteEvent where
  | connected (conn : ConnId)
  | received (conn : ConnId) (incoming : List Byte) (outcomes : DbOutcomes)
  | disconnected (conn erased : ConnId)
  | matchQueue (i : Fin 3) (roomCount : UInt32)

/-- The server, and the `_inputBuffer_` of each connection that is up. -/
structure ByteServer where
  server : Server
  inputs : PMap ConnId Buffer

namespace ByteServer

/-- `TcpConnection::handleRead` with the callbacks of `GameServer`.  Nothing to read means that the
peer has closed, which is an event of its own. -/
def step (json : JsonCpp) (state : ByteServer) : ByteEvent → Except Fault ByteServer
  | .connected conn =>
      (state.server.stepAndLog json (.connect conn)).map fun server =>
        ⟨server, state.inputs.insert conn .new⟩
  | .received conn incoming outcomes =>
      match state.inputs.find? conn with
      | none => .ok state
      | some buf =>
          if incoming = [] then .ok state
          else do
            let (server, rest) ← state.server.onMessage json conn (buf.readfd incoming) outcomes
            pure ⟨server, state.inputs.insert conn rest⟩
  | .disconnected conn erased =>
      (state.server.stepAndLog json (.disconnect conn erased)).map fun server =>
        ⟨server, state.inputs.erase conn⟩
  | .matchQueue i roomCount =>
      (state.server.stepAndLog json (.matchQueue i roomCount)).map fun server =>
        ⟨server, state.inputs⟩

/-! ### The input side alone -/

/-- What an event does to the input buffers, and what reaches the handlers. -/
def intake (inputs : PMap ConnId Buffer) :
    ByteEvent → Except Fault (PMap ConnId Buffer × Option Server.Arrival)
  | .connected conn => .ok (inputs.insert conn .new, some (.other (.connect conn)))
  | .received conn incoming outcomes =>
      match inputs.find? conn with
      | none => .ok (inputs, none)
      | some buf =>
          if incoming = [] then .ok (inputs, none)
          else do
            let (rest, body) ← ProtocolDispatcher.extract (buf.readfd incoming)
            pure (inputs.insert conn rest, body.map fun body => .message conn body outcomes)
  | .disconnected conn erased => .ok (inputs.erase conn, some (.other (.disconnect conn erased)))
  | .matchQueue i roomCount => .ok (inputs, some (.other (.matchQueue i roomCount)))

/-- Handle what has arrived, if anything has. -/
def arriveSome (json : JsonCpp) (server : Server) (arrival : Option Server.Arrival) :
    Except Fault Server :=
  match arrival with
  | none => .ok server
  | some arrival => server.arrive json arrival

/-- An event is taken in, and what comes of it is handled. -/
theorem step_eq (json : JsonCpp) (state : ByteServer) (event : ByteEvent) :
    state.step json event = (do
      let (inputs, arrival) ← intake state.inputs event
      let server ← arriveSome json state.server arrival
      pure ⟨server, inputs⟩) := by
  cases event with
  | connected conn =>
      simp only [step, intake, ok_bind, arriveSome, Server.arrive]
      cases state.server.stepAndLog json (.connect conn) <;> rfl
  | disconnected conn erased =>
      simp only [step, intake, ok_bind, arriveSome, Server.arrive]
      cases state.server.stepAndLog json (.disconnect conn erased) <;> rfl
  | matchQueue i roomCount =>
      simp only [step, intake, ok_bind, arriveSome, Server.arrive]
      cases state.server.stepAndLog json (.matchQueue i roomCount) <;> rfl
  | received conn incoming outcomes =>
      simp only [step, intake]
      split
      · rfl
      · split
        · rfl
        · rename_i buf _ _
          simp only [Server.onMessage]
          cases ProtocolDispatcher.extract (buf.readfd incoming) with
          | error fault => rfl
          | ok taken =>
              obtain ⟨rest, body⟩ := taken
              cases body with
              | none => rfl
              | some body =>
                  simp only [ok_bind, pure_eq_ok, Option.map_some, arriveSome, Server.arrive]
                  cases state.server.receive json conn body outcomes <;> rfl

/-- What reaches the handlers in the course of the events.  The handlers have no part in it. -/
def intakes (inputs : PMap ConnId Buffer) :
    List ByteEvent → Except Fault (PMap ConnId Buffer × List Server.Arrival)
  | [] => .ok (inputs, [])
  | event :: events => do
      let (inputs, arrival) ← intake inputs event
      let (inputs, arrivals) ← intakes inputs events
      pure (inputs, arrival.toList ++ arrivals)

end ByteServer

end GomukuServer.Module
