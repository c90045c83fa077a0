import Outbox.Postgres.Store
import Outbox.UnitOfWork

namespace Outbox.Postgres.UnitOfWork

open Session (send orAbandon abandon)

/-- How a unit of work ends. One that is dropped ends as one that is rolled back, and nobody hears
what the server says to it. -/
inductive Ending
  | commit
  | rollback
  | drop
deriving DecidableEq

def committedEvent (count : Nat) : LogEvent :=
  .of .debug Outbox.UnitOfWork.target "postgres unit of work committed" [("row_count", .number count)]

def commit (staged : List Row) : Session Unit := do
  orAbandon (insertAll staged)
  Session.commit
  Session.log (committedEvent staged.length)

def run (business : Option String) (staged : List Row) (ending : Ending) : Session Unit := do
  Session.start
  match business with
  | none => pure ()
  | some sql => orAbandon do let _ ← send "business" (.business sql)
  match ending with
  | .commit => commit staged
  | .rollback => Session.rollback
  | .drop => abandon

end Outbox.Postgres.UnitOfWork
