import Outbox.Row
import Outbox.Text.Blank

namespace Outbox.Postgres

/-- What is sent to the server. `business` is a statement of the application's own. -/
inductive Statement
  | migrate
  | beginTransaction
  | commit
  | rollback
  | insert (r : Row)
  | selectCandidates (now : Time) (limit : Nat)
  | lease (id : EventId) (worker : String) (expiry now : Time)
  | leaseBatch (worker : String) (expiry now : Time) (limit : Nat)
  | markProcessed (id : EventId) (now : Time)
  | probe (id : EventId)
  | lockForFailure (id : EventId)
  | markFailed (id : EventId) (attempts : UInt32) (error : String) (next deadLetteredAt : Option Time)
  | select (id : EventId)
  | selectDeadLetters (limit : Nat)
  | requeue (id : EventId)
  | purge (before : Time)
  | countStates (now : Time)
  | business (sql : String)
deriving DecidableEq

inductive Param
  | null
  | uuid (u : Uuid)
  | time (t : Time)
  | text (s : String)
  | number (n : Nat)
deriving DecidableEq

def largestInteger : Nat := 0x7FFF_FFFF

def largestBigint : Nat := 0x7FFF_FFFF_FFFF_FFFF

/-- A number as the server can hold it: the largest integer of its sort stands for all above it. -/
def Param.clamped (largest n : Nat) : Param := .number (min n largest)

def Param.ofOption {α : Type} (f : α → Param) : Option α → Param
  | some a => f a
  | none => .null

namespace Statement

def columns : String :=
  "id, occurred_at, created_at, type, payload, correlation_id, aggregate_id, key, processed_at, error, attempts, " ++
    "next_attempt_at, locked_by, locked_until, dead_lettered_at"

def migration : String :=
  "-- Transactional outbox for account events.\n" ++
  "-- Rows are inserted in the same transaction as the business change and\n" ++
  "-- drained by any number of outbox-processor instances.\n" ++
  "CREATE TABLE IF NOT EXISTS outbox_messages ( id uuid PRIMARY KEY, occurred_at timestamptz NOT NULL, " ++
  "created_at timestamptz NOT NULL DEFAULT NOW(), type varchar(512) NOT NULL, payload text NOT NULL, " ++
  "correlation_id varchar(128) NULL, aggregate_id varchar(128) NULL, key varchar(128) NULL, " ++
  "processed_at timestamptz NULL, error varchar(4000) NULL, attempts integer NOT NULL DEFAULT 0, " ++
  "next_attempt_at timestamptz NULL, locked_by varchar(128) NULL, locked_until timestamptz NULL, " ++
  "dead_lettered_at timestamptz NULL, " ++
  "CONSTRAINT outbox_messages_attempts_non_negative CHECK (attempts >= 0), " ++
  "CONSTRAINT outbox_messages_single_terminal_state CHECK (processed_at IS NULL OR dead_lettered_at IS NULL) );\n" ++
  "-- Claim scan: oldest pending rows first.\n" ++
  "CREATE INDEX IF NOT EXISTS ix_outbox_messages_pending ON outbox_messages (occurred_at) " ++
  "WHERE processed_at IS NULL AND dead_lettered_at IS NULL;\n" ++
  "CREATE INDEX IF NOT EXISTS ix_outbox_messages_dead_lettered ON outbox_messages (dead_lettered_at) " ++
  "WHERE dead_lettered_at IS NOT NULL;\n" ++
  "CREATE INDEX IF NOT EXISTS ix_outbox_messages_processed ON outbox_messages (processed_at) " ++
  "WHERE processed_at IS NOT NULL;"

def unresolved : String := "processed_at IS NULL AND dead_lettered_at IS NULL"

def claimable (now : String) : String :=
  unresolved ++ " AND (next_attempt_at IS NULL OR next_attempt_at <= " ++ now ++ ") AND (locked_until IS NULL OR " ++
    "locked_until < " ++ now ++ ")"

def oldestFirst : String := "ORDER BY occurred_at ASC, id ASC LIMIT "

def counting (condition name : String) : String := "COUNT(*) FILTER (" ++ condition ++ ") AS " ++ name

def sql : Statement → String
  | .migrate => migration
  | .beginTransaction => "BEGIN"
  | .commit => "COMMIT"
  | .rollback => "ROLLBACK"
  | .insert _ =>
    "INSERT INTO outbox_messages ( id, occurred_at, created_at, type, payload, correlation_id, aggregate_id, key, " ++
      "attempts ) VALUES ($1, $2, $3, $4, $5, $6, $7, $8, $9)"
  | .selectCandidates .. => "SELECT id FROM outbox_messages WHERE " ++ claimable "$1" ++ " " ++ oldestFirst ++ "$2"
  | .lease .. =>
    "UPDATE outbox_messages SET locked_by = $2, locked_until = $3 WHERE id = $1 AND " ++ claimable "$4" ++
      " RETURNING " ++ columns
  | .leaseBatch .. =>
    "UPDATE outbox_messages SET locked_by = $1, locked_until = $2 WHERE id IN ( " ++
      "SELECT id FROM outbox_messages WHERE " ++ claimable "$3" ++ " " ++ oldestFirst ++
      "$4 FOR UPDATE SKIP LOCKED ) RETURNING " ++ columns
  | .markProcessed .. =>
    "UPDATE outbox_messages SET processed_at = $2, error = NULL, locked_by = NULL, locked_until = NULL " ++
      "WHERE id = $1 AND " ++ unresolved
  | .probe _ => "SELECT 1 AS present FROM outbox_messages WHERE id = $1"
  | .lockForFailure _ =>
    "SELECT attempts, processed_at, dead_lettered_at FROM outbox_messages WHERE id = $1 FOR UPDATE"
  | .markFailed .. =>
    "UPDATE outbox_messages SET attempts = $2, error = $3, next_attempt_at = $4, dead_lettered_at = $5, " ++
      "locked_by = NULL, locked_until = NULL WHERE id = $1"
  | .select _ => "SELECT " ++ columns ++ " FROM outbox_messages WHERE id = $1"
  | .selectDeadLetters _ =>
    "SELECT " ++ columns ++ " FROM outbox_messages WHERE dead_lettered_at IS NOT NULL " ++
      "ORDER BY dead_lettered_at ASC, id ASC LIMIT $1"
  | .requeue _ =>
    "UPDATE outbox_messages SET attempts = 0, dead_lettered_at = NULL, next_attempt_at = NULL, locked_by = NULL, " ++
      "locked_until = NULL WHERE id = $1 AND dead_lettered_at IS NOT NULL RETURNING " ++ columns
  | .purge _ => "DELETE FROM outbox_messages WHERE processed_at IS NOT NULL AND processed_at < $1"
  | .countStates _ =>
    "SELECT " ++ counting "WHERE processed_at IS NOT NULL" "processed" ++ ", " ++
      counting "WHERE dead_lettered_at IS NOT NULL" "dead_lettered" ++ ", " ++
      counting (" WHERE " ++ unresolved ++ " AND locked_until >= $1 ") "leased" ++ ", " ++
      counting (" WHERE " ++ unresolved ++ " AND (locked_until IS NULL OR locked_until < $1) AND next_attempt_at > $1 ")
        "retrying" ++ ", " ++
      counting (" WHERE " ++ unresolved ++ " AND (locked_until IS NULL OR locked_until < $1) AND " ++
        "(next_attempt_at IS NULL OR next_attempt_at <= $1) ") "pending" ++ " FROM outbox_messages"
  | .business sql => sql

def isPlain : Statement → Bool
  | .migrate | .beginTransaction | .commit | .rollback => true
  | _ => false

/-- Begins or ends a transaction, which a statement of the application's own may do too. -/
def isControl : Statement → Bool
  | .beginTransaction | .commit | .rollback => true
  | .business sql => ["BEGIN", "COMMIT", "ROLLBACK"].contains (Text.spaced sql)
  | _ => false

def params : Statement → List Param
  | .insert r =>
    [.uuid r.id.uuid, .time r.occurredAt, .time r.createdAt, .text r.eventType, .text r.payload,
      .ofOption .text r.correlationId, .ofOption .text r.aggregateId, .ofOption .text r.key,
      .clamped largestInteger r.attempts.toNat]
  | .selectCandidates now limit => [.time now, .clamped largestBigint limit]
  | .lease id worker expiry now => [.uuid id.uuid, .text worker, .time expiry, .time now]
  | .leaseBatch worker expiry now limit => [.text worker, .time expiry, .time now, .clamped largestBigint limit]
  | .markProcessed id t => [.uuid id.uuid, .time t]
  | .markFailed id attempts error next deadLetteredAt =>
    [.uuid id.uuid, .clamped largestInteger attempts.toNat, .text error, .ofOption .time next,
      .ofOption .time deadLetteredAt]
  | .probe id | .lockForFailure id | .select id | .requeue id => [.uuid id.uuid]
  | .selectDeadLetters limit => [.clamped largestBigint limit]
  | .purge t | .countStates t => [.time t]
  | _ => []

end Statement

def serverEpoch : Int := 946684800

/-- Whole microseconds since the server's epoch; what is left over is cut off towards it. -/
def microseconds (t : Time) : Int := ((t.seconds - serverEpoch) * 1_000_000_000 + t.nanos).tdiv 1000

def keptTime (t : Time) : Time := (Time.settle? serverEpoch (microseconds t * 1000)).getD t

end Outbox.Postgres
