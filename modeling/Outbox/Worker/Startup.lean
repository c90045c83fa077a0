import Outbox.Outlet
import Outbox.Postgres.Store
import Outbox.Settings.Environment
import Outbox.Worker.Loop

namespace Outbox

inductive StartError
  | settings (e : SettingError)
  | connection (e : Postgres.Failure)
  | migration (e : StoreError)
  | outlet (message : String)

namespace StartError

def causes : StartError → String × List String
  | .settings e => ("invalid outbox configuration", [e.message])
  | .connection e =>
    ("failed to connect to Postgres", e.message :: match e with
      | .database _ message => [message]
      | _ => [])
  | .migration e => ("failed to apply outbox migration", [e.message])
  | .outlet message => (message, [])

def indented (margin s : String) : String := s.replace "\n" ("\n" ++ margin)

def numbered : Nat → List String → List String
  | _, [] => []
  | n, c :: cs => ("\n    " ++ toString n ++ ": " ++ indented "       " c) :: numbered (n + 1) cs

def report (e : StartError) : String :=
  let (what, causes) := e.causes
  "Error: " ++ what ++ (match causes with
    | [] => ""
    | [c] => "\n\nCaused by:\n    " ++ indented "    " c
    | cs => "\n\nCaused by:" ++ String.join (numbered 0 cs)) ++ "\n"

end StartError

namespace Worker

open Postgres (Dialogue)

def vars : List String :=
  Settings.vars ++ ["HOSTNAME", "DATABASE_URL", "OUTBOX_PUBLISHER", "LOG_FORMAT", "RUST_LOG"]

def processTarget : String := "outbox_processor"

def unsetUrlEvent : LogEvent := .of .warn processTarget "DATABASE_URL not set; using local dev default" []

def logOnlyEvent : LogEvent :=
  .of .warn processTarget "OUTBOX_PUBLISHER=log; messages are only logged, not delivered" []

def startingEvent (s : Settings) : LogEvent :=
  .of .info processTarget "starting outbox processor"
    [("worker_id", .shown s.workerId), ("claim_strategy", .shown s.claimStrategy.label)]

def shutdownEvent : LogEvent := .of .info processTarget "shutdown requested" []

def exitedEvent (t : Tally) : LogEvent :=
  .of .info processTarget "outbox processor exited"
    [("published", .number t.published), ("retried", .number t.retried), ("dead_lettered", .number t.deadLettered)]

def publishEvent (m : Message) : LogEvent :=
  .of .info processTarget "publish" [("topic", .quoted m.topic), ("key", .quoted m.key), ("message", .quoted m.text)]

abbrev Starting := ExceptT StartError Dialogue

def say (e : LogEvent) : Starting Unit := .lift (.log e)

/-- The checks before a worker's first iteration, in order: its settings, a connection, the table, a
way out for its messages. -/
def prepare (env : Environment) (id : Uuid) (refusal : Option Postgres.Failure) : Starting Settings := do
  let s ← ExceptT.mk (.done ((Settings.ofEnvironment env id).mapError .settings))
  if (env "DATABASE_URL").isNone then say unsetUrlEvent
  match refusal with
  | some e => throw (.connection e)
  | none => do
    Postgres.Store.migrate.adapt .migration
    let outlet ← ExceptT.mk (.done ((Outlet.read (env "OUTBOX_PUBLISHER")).mapError .outlet))
    if outlet = .log then say logOnlyEvent
    ExceptT.mk (.done (outlet.check.mapError .outlet))
    say (startingEvent s)
    return s

variable {m : Type → Type}

def backend [Monad m] (hold : {α : Type} → Dialogue α → m α) (now : m Time) (strategy : ClaimStrategy) :
    Backend m where
  now := now
  claim take worker lease t := hold (Postgres.Store.claim strategy take worker lease t).run
  publish message := do
    hold (.log (publishEvent message))
    return .ok (.ok ())
  markProcessed id t := hold (Postgres.Store.markProcessed id t).run
  markFailed id error t policy := hold (Postgres.Store.markFailed id error t policy).run
  log e := hold (.log e)
  hearsWarnings := true

end Worker

end Outbox
