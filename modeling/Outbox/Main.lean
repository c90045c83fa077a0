import Outbox.Log.Line
import Outbox.Postgres.Relay
import Outbox.Uuid.Timed
import Outbox.Worker.Startup
import Std.Time.DateTime.Timestamp

namespace Outbox.Main

open Postgres (Dialogue Reply Statement)

def now : IO Time := do
  let t ← Std.Time.Timestamp.now
  return (Time.settle? 0 t.toNanosecondsSinceUnixEpoch.val).getD .epoch

/-- The line to the server, which is cut at the end of the input. -/
structure Line where
  sink : LogSink
  isCut : IO.Ref Bool

namespace Line

def write (line : Line) (e : LogEvent) : IO Unit := (line.sink.lines [e]).forM IO.eprintln

def readReply (line : Line) : IO (Option String) := do
  let s ← (← IO.getStdin).getLine
  if s.isEmpty then
    line.isCut.set true
    return none
  return some s

def ask (line : Line) (s : Statement) : IO Reply := do
  IO.println (Postgres.Relay.request s)
  (← IO.getStdout).flush
  return Postgres.Relay.answer (← line.readReply)

def take (line : Line) (s : Statement) : IO Unit := do
  match ← line.ask s with
  | .ok _ => return ()
  | .error e => line.write (Postgres.releaseEvent e)

def hold {α : Type} (line : Line) : Dialogue α → IO α := Dialogue.perform line.ask line.take line.write

partial def serve (line : Line) (s : Settings) (b : Backend IO) (l : Loop) : IO Loop := do
  match l.phase with
  | .pausing d =>
    if ← line.isCut.get then l.wake s b .abandoned
    else
      IO.sleep (UInt32.ofNat (d.nanos / 1_000_000))
      serve line s b (← l.wake s b .elapsed)
  | _ => return l

end Line

def environment : IO Environment := do
  let values ← Worker.vars.mapM fun name => do return (name, ← IO.getEnv name)
  return fun name => (values.lookup name).join

def freshId : IO Uuid := do
  let t ← Std.Time.Timestamp.now
  return .timed t.toMillisecondsSinceUnixEpoch.val.toNat (← IO.rand 0 0xFFFF_FFFF)

def work (env : Environment) (line : Line) : IO UInt32 := do
  match ← line.hold (Worker.prepare env (← freshId) none).run with
  | .error e =>
    IO.eprint e.report
    return 1
  | .ok s =>
    let b : Backend IO := Worker.backend line.hold now s.claimStrategy
    let l ← line.serve s b (← Loop.start s b false)
    b.log (Worker.exitedEvent l.tally)
    return 0

end Outbox.Main

open Outbox Outbox.Main in
def main : IO UInt32 := do
  let env ← environment
  match LogSink.ofEnvironment env with
  | .error a =>
    IO.eprintln a.message
    return UInt32.ofNat Abort.exitCode
  | .ok sink => work env ⟨sink, ← IO.mkRef false⟩
