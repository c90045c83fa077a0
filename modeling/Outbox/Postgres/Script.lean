import Outbox.Postgres.Dialogue

namespace Outbox.Postgres

/-- A reply laid out in advance: for a statement that begins or ends a transaction, or for any other.
A begin that is ignored opens none. -/
structure Scripted where
  reply : Reply
  forControl : Bool
  isIgnored : Bool

/-- A server that executes nothing: it gives the replies it was handed, and keeps what it was sent.
`refusal` is what it says to every attempt to reach it. What is said of statements that were only posted is
heard late, with the next one that is asked. -/
structure Server where
  replies : List Scripted
  refusal : Option Failure
  sent : List Statement
  log : List LogEvent
  late : List LogEvent
  sawLastClaim : Bool

namespace Server

def ofReplies (replies : List Scripted) (refusal : Option Failure) : Server := ⟨replies, refusal, [], [], [], false⟩

def closed : Server := ofReplies [] (some .closed)

def nothing : Reply := .ok ⟨[], 0⟩

def kept (r : Record) : Record :=
  { r with
    occurredAt := r.occurredAt.map keptTime
    createdAt := r.createdAt.map keptTime
    processedAt := r.processedAt.map keptTime
    nextAttemptAt := r.nextAttemptAt.map keptTime
    lockedUntil := r.lockedUntil.map keptTime
    deadLetteredAt := r.deadLetteredAt.map keptTime }

def Scripted.answer (r : Scripted) (s : Statement) : Reply :=
  if r.isIgnored then
    match s with
    | .beginTransaction => .error .notOpened
    | _ => nothing
  else r.reply.map fun result => { result with records := result.records.map kept }

def isClaim : Statement → Bool
  | .selectCandidates .. | .leaseBatch .. => true
  | _ => false

def reply (s : Statement) : StateM Server Reply := fun server =>
  match server.refusal with
  | some e => (.error e, server)
  | none =>
    let server := { server with sent := server.sent ++ [s] }
    match server.replies with
    | [] => (nothing, { server with sawLastClaim := server.sawLastClaim || isClaim s })
    | r :: rest =>
      if r.forControl == s.isControl then (Scripted.answer r s, { server with replies := rest })
      else (nothing, server)

def answer (s : Statement) : StateM Server Reply := do
  modify fun server => { server with log := server.log ++ server.late, late := [] }
  reply s

def take (s : Statement) : StateM Server Unit := do
  match ← reply s with
  | .ok _ => return ()
  | .error e => modify fun server => { server with late := server.late ++ [releaseEvent e] }

def hear (e : LogEvent) : StateM Server Unit := modify fun server => { server with log := server.log ++ [e] }

def hold {α : Type} : Dialogue α → StateM Server α := Dialogue.perform answer take hear

def ownLog (server : Server) : List LogEvent := server.log.filter (·.target ≠ poolTarget)

end Server

end Outbox.Postgres
