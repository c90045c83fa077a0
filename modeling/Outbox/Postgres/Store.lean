import Outbox.Abort
import Outbox.Postgres.Session
import Outbox.Settings
import Outbox.Worker.Backend

namespace Outbox.Postgres

open Session (send logged start abandon orAbandon)

def insert (r : Row) : Session Unit := do
  match ← ExceptT.lift (Dialogue.send (.insert r)) with
  | .ok _ => return ()
  | .error (.database code message) =>
    if code = uniqueViolation then throw (.alreadyExists r.id)
    else throw ((Failure.database code message).toStoreError "insert_outbox_row")
  | .error e => throw (e.toStoreError "insert_outbox_row")

def insertAll : List Row → Session Unit
  | [] => return ()
  | r :: rows => do
    insert r
    insertAll rows

namespace Store

def span (name : String) (fields : List (String × Option LogValue)) : LogSpan := ⟨name, Session.target, fields⟩

def migrateSpan : LogSpan := span "migrate" []

def addSpan (count : Nat) : LogSpan := span "insert" [("row_count", some (.number count))]

def claimSpan (strategy : ClaimStrategy) (take : Nat) (worker : String) (lease : Duration) (now : Time) : LogSpan :=
  span "claim"
    [("take", some (.number take)), ("worker_id", some (.quoted worker)), ("lease", some (.shown lease.text)),
      ("now", some (.shown now.text)), ("strategy", some (.shown strategy.label)), ("claimed", none)]

def rowSpan (name timeName : String) (id : EventId) (now : Time) : LogSpan :=
  span name
    [("id", some (.shown ("EventId(" ++ id.text ++ ")"))), (timeName, some (.shown now.text)),
      ("outbox_id", some (.shown id.text))]

def migrate : Session Unit := logged migrateSpan do let _ ← send "migrate" .migrate

def add (rows : List Row) : Session Unit := logged (addSpan rows.length) do
  if !rows.isEmpty then
    start
    orAbandon (insertAll rows)
    Session.commit

def takenEvent (id : EventId) : LogEvent :=
  .of .debug Session.target "candidate taken by another worker" [("outbox_id", .shown id.text)]

/-- Leases candidates one by one until `take` rows are leased. A candidate may be lost to another worker. -/
def leaseEach (take : Nat) (worker : String) (expiry now : Time) : List Record → List Row → Session (List Row)
  | [], leased => return leased
  | candidate :: rest, leased => do
    if take ≤ leased.length then return leased
    let id ← Session.ofExcept (readColumn "id" (candidate.id.read "id"))
    let result ← send "lease_row" (.lease ⟨id⟩ worker expiry now)
    match result.records.head? with
    | some record => leaseEach take worker expiry now rest (leased ++ [← Session.ofExcept record.toRow])
    | none => do
      Session.log (takenEvent ⟨id⟩)
      leaseEach take worker expiry now rest leased

/-- More candidates than rows wanted, so that those lost to other workers can be made up for. -/
def overfetch : Nat := 3

def largestWord : Nat := 0xFFFF_FFFF_FFFF_FFFF

/-- As many candidates as a word can count stand for all above. -/
def candidateLimit (take : Nat) : Nat := min (take * overfetch) largestWord

def rowBytes : Nat := 264

def memoryLimit : Nat := 0x7FFF_FFFF_FFFF_FFFF

abbrev Claim := ExceptT Interruption Dialogue

def Claim.ofSession {α : Type} (s : Session α) : Claim α := s.adapt .refused

def claimEach (take : Nat) (worker : String) (expiry now : Time) : Claim (List Row) := do
  let result ← Claim.ofSession (send "select_claim_candidates" (.selectCandidates now (candidateLimit take)))
  if memoryLimit < take * rowBytes then throw (.aborted .memory)
  else .ofSession (leaseEach take worker expiry now result.records [])

def claimTogether (take : Nat) (worker : String) (expiry now : Time) : Session (List Row) := do
  let result ← send "claim_set_based" (.leaseBatch worker expiry now take)
  .ofExcept (result.records.mapM Record.toRow)

def claimBy (strategy : ClaimStrategy) (take : Nat) (worker : String) (lease : Duration) (now : Time) :
    Claim (List Row) := do
  let expiry ← Claim.ofSession (.ofExcept (leaseExpiry now lease))
  if take = 0 then return []
  else
    let rows ← match strategy with
      | .perRow => claimEach take worker expiry now
      | .setBased => .ofSession (claimTogether take worker expiry now)
    return rows.mergeSort Row.precedes

def claim (strategy : ClaimStrategy) (take : Nat) (worker : String) (lease : Duration) (now : Time) :
    Claim (List Row) :=
  .mk <| Dialogue.within (claimSpan strategy take worker lease now) <| ExceptT.run <|
    tryCatch (claimBy strategy take worker lease now) fun e => do
      match e with
      | .refused e => Claim.ofSession (Session.log (Session.errorEvent e))
      | .aborted _ => pure ()
      throw e

def isThere (id : EventId) : Session Bool := do return !(← send "exists" (.probe id)).records.isEmpty

/-- A row that was not marked is looked for: it may be terminal already. -/
def markProcessed (id : EventId) (now : Time) : Session Unit :=
    logged (rowSpan "set_processed" "processed_at" id now) do
  let result ← send "mark_processed" (.markProcessed id now)
  if result.affected = 0 then
    if !(← isThere id) then throw (.notFound id)

def lockLive (id : EventId) : Session (Option UInt32) := do
  let result ← send "load_attempts" (.lockForFailure id)
  match result.records.head? with
  | none => throw (.notFound id)
  | some record =>
    let processedAt ← Session.ofExcept <| readColumn "processed_at" (record.processedAt.read? "processed_at")
    let deadLetteredAt ← Session.ofExcept <|
      readColumn "dead_lettered_at" (record.deadLetteredAt.read? "dead_lettered_at")
    if processedAt.isSome || deadLetteredAt.isSome then return none
    else
      let attempts ← Session.ofExcept <| readColumn "attempts" (record.attempts.read "attempts")
      return some (attemptsOf attempts)

def markFailed (id : EventId) (error : String) (now : Time) (policy : RetryPolicy) : Session FailureOutcome :=
    logged (rowSpan "set_failed" "now" id now) do
  start
  match ← orAbandon (lockLive id) with
  | none => do
    abandon
    return .unchanged
  | some before =>
    let attempts := Row.countAttempt before
    let next := policy.nextAttempt attempts now
    orAbandon do
      let _ ← send "mark_failed"
        (.markFailed id attempts (clipError error) next (if next.isNone then some now else none))
    Session.commit
    return Row.failureOutcome attempts next

def get? (id : EventId) : Session (Option Row) := do
  match (← send "get" (.select id)).records.head? with
  | none => return none
  | some record => return some (← Session.ofExcept record.toRow)

def deadLetters (limit : Nat) : Session (List Row) := do
  let result ← send "list_dead_letters" (.selectDeadLetters limit)
  .ofExcept (result.records.mapM Record.toRow)

def requeue (id : EventId) : Session Row := do
  match (← send "requeue_dead_letter" (.requeue id)).records.head? with
  | none => throw (.notFound id)
  | some record => .ofExcept record.toRow

def purge (before : Time) : Session Nat := do return (← send "purge_processed" (.purge before)).affected

def count (name : String) (c : Column Int) : Session Nat := do
  return (← Session.ofExcept (readColumn name (c.read name))).toNat

def stats (now : Time) : Session StoreStats := do
  match (← send "stats" (.countStates now)).records.head? with
  | none => throw (Failure.noRow.toStoreError "stats")
  | some r =>
    return {
      pending := ← count "pending" r.pending
      leased := ← count "leased" r.leased
      retrying := ← count "retrying" r.retrying
      processed := ← count "processed" r.processed
      deadLettered := ← count "dead_lettered" r.deadLettered }

end Store

end Outbox.Postgres
