import Outbox.Postgres.Dialogue

namespace Outbox.Postgres.Session

variable {α : Type}

def send (operation : String) (s : Statement) : Session Result := do
  match ← ExceptT.lift (Dialogue.send s) with
  | .ok result => return result
  | .error e => throw (e.toStoreError operation)

def ofExcept (r : Except StoreError α) : Session α := .mk (.done r)

def log (e : LogEvent) : Session Unit := .lift (.log e)

def target : String := "bankrelay_infra::outbox::postgres"

def errorEvent (e : StoreError) : LogEvent := ⟨.error, target, [("error", .shown e.message)], []⟩

def logged (span : LogSpan) (body : Session α) : Session α :=
  .mk <| Dialogue.within span <| ExceptT.run <| tryCatch body fun e => do
    log (errorEvent e)
    throw e

def start : Session Unit := do let _ ← send "begin_transaction" .beginTransaction

def abandon : Session Unit := .lift (Dialogue.leave .rollback)

def orAbandon (body : Session α) : Session α := tryCatch body fun e => do
  abandon
  throw e

def commit : Session Unit := orAbandon do let _ ← send "commit_transaction" .commit

def rollback : Session Unit := orAbandon do let _ ← send "rollback" .rollback

end Outbox.Postgres.Session
