import Outbox.Log.Line
import Outbox.Postgres.Script
import Outbox.Worker.Startup

namespace Outbox.Simulation

open Postgres (Server)

structure Exit where
  code : Nat
  stderr : String
  lines : List String
  sent : List Postgres.Statement

namespace Rehearsal

/-- Iterations without end, until a claim has found no reply left. Each iteration before that takes a
reply, so there are no more of them than replies. -/
def iterate (s : Settings) (b : Backend (StateM Server)) : Nat → Loop → StateM Server Loop
  | 0, l => return l
  | fuel + 1, l => do
    if (← get).sawLastClaim then return l
    else iterate s b fuel (← l.wake s b .elapsed)

def serve (s : Settings) (now : Time) : StateM Server Unit := do
  let b : Backend (StateM Server) := Worker.backend Server.hold (pure now) s.claimStrategy
  let fuel := (← get).replies.length + 1
  let l ← iterate s b fuel (← Loop.start s b false)
  b.log Worker.shutdownEvent
  let _ ← l.wake s b (.told true)
  b.log (Worker.exitedEvent l.tally)

def work (env : Environment) (id : Uuid) (now : Time) : StateM Server (Except StartError Unit) := do
  match ← Server.hold (Worker.prepare env id (← get).refusal).run with
  | .error e => return .error e
  | .ok s => do
    serve s now
    return .ok ()

def run (env : Environment) (id : Uuid) (now : Time) (server : Server) : Exit :=
  match LogSink.ofEnvironment env with
  | .error a => ⟨Abort.exitCode, a.message ++ "\n", [], []⟩
  | .ok sink =>
    let (result, server) := work env id now server
    let lines := sink.lines server.log
    match result with
    | .ok () => ⟨0, "", lines, server.sent⟩
    | .error e => ⟨1, e.report, lines, server.sent⟩

end Rehearsal

end Outbox.Simulation
