import Outbox.Store

namespace Outbox.Postgres

inductive Column (α : Type)
  | missing
  | null
  | value (a : α)

inductive ColumnError
  | missing (name : String)
  | null (name : String)

def ColumnError.message : ColumnError → String
  | .missing name => "no column found for name: " ++ name
  | .null name =>
    "error occurred while decoding column \"" ++ name ++ "\": unexpected null; try decoding as an `Option`"

namespace Column

variable {α : Type}

def map {β : Type} (f : α → β) : Column α → Column β
  | .missing => .missing
  | .null => .null
  | .value a => .value (f a)

def read (name : String) : Column α → Except ColumnError α
  | .missing => .error (.missing name)
  | .null => .error (.null name)
  | .value a => .ok a

def read? (name : String) : Column α → Except ColumnError (Option α)
  | .missing => .error (.missing name)
  | .null => .ok none
  | .value a => .ok (some a)

end Column

structure Record where
  id : Column Uuid
  occurredAt : Column Time
  createdAt : Column Time
  type : Column String
  payload : Column String
  correlationId : Column String
  aggregateId : Column String
  key : Column String
  processedAt : Column Time
  error : Column String
  attempts : Column Int
  nextAttemptAt : Column Time
  lockedBy : Column String
  lockedUntil : Column Time
  deadLetteredAt : Column Time
  pending : Column Int
  leased : Column Int
  retrying : Column Int
  processed : Column Int
  deadLettered : Column Int

/-- Negative counts are read as none. -/
def attemptsOf (n : Int) : UInt32 := UInt32.ofNat n.toNat

namespace Record

def decode (r : Record) : Except ColumnError Row := do
  let id ← r.id.read "id"
  let occurredAt ← r.occurredAt.read "occurred_at"
  let createdAt ← r.createdAt.read "created_at"
  let eventType ← r.type.read "type"
  let payload ← r.payload.read "payload"
  let correlationId ← r.correlationId.read? "correlation_id"
  let aggregateId ← r.aggregateId.read? "aggregate_id"
  let key ← r.key.read? "key"
  let processedAt ← r.processedAt.read? "processed_at"
  let error ← r.error.read? "error"
  let attempts ← r.attempts.read "attempts"
  let nextAttemptAt ← r.nextAttemptAt.read? "next_attempt_at"
  let lockedBy ← r.lockedBy.read? "locked_by"
  let lockedUntil ← r.lockedUntil.read? "locked_until"
  let deadLetteredAt ← r.deadLetteredAt.read? "dead_lettered_at"
  return {
    id := ⟨id⟩, occurredAt, eventType, payload, correlationId, aggregateId, key, processedAt, error
    attempts := attemptsOf attempts, nextAttemptAt, lockedBy, lockedUntil, deadLetteredAt, createdAt }

def toRow (r : Record) : Except StoreError Row :=
  r.decode.mapError fun e => .serialization ("failed to decode outbox row: " ++ e.message)

end Record

def readColumn {α : Type} (name : String) (r : Except ColumnError α) : Except StoreError α :=
  r.mapError fun e => .serialization ("failed to read " ++ name ++ ": " ++ e.message)

/-- A statement that had no result. A transaction is refused where the server did not open one. -/
inductive Failure
  | database (code message : String)
  | closed
  | notOpened
  | noRow
deriving DecidableEq

def Failure.message : Failure → String
  | .database _ message => "error returned from database: " ++ message
  | .closed => "attempted to acquire a connection on a closed pool"
  | .notOpened => "got unexpected connection status after attempting to begin transaction"
  | .noRow => "no rows returned by a query that expected to return at least one row"

def Failure.toStoreError (operation : String) (e : Failure) : StoreError :=
  .storage (match e with
    | .database code message => "database error in " ++ operation ++ " (" ++ code ++ "): " ++ message
    | .closed => "connection pool closed in " ++ operation
    | .notOpened => "sqlx error in " ++ operation ++ ": " ++ e.message
    | .noRow => "unexpected row not found in " ++ operation)

def uniqueViolation : String := "23505"

structure Result where
  records : List Record
  affected : Nat

abbrev Reply := Except Failure Result

end Outbox.Postgres
