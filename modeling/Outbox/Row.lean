import Outbox.Id
import Outbox.Retry
import Outbox.Time.Text

namespace Outbox

/-- A message that waits to be published, or has been, or has been given up. -/
structure Row where
  id : EventId
  occurredAt : Time
  eventType : String
  payload : String
  correlationId : Option String
  aggregateId : Option String
  key : Option String
  processedAt : Option Time
  error : Option String
  attempts : UInt32
  nextAttemptAt : Option Time
  lockedBy : Option String
  lockedUntil : Option Time
  deadLetteredAt : Option Time
  createdAt : Time
deriving DecidableEq

def partitionKey (key aggregateId correlationId : Option String) (id : EventId) : String :=
  ((key.or aggregateId).or correlationId).getD id.simple

def maxErrorLength : Nat := 4000

def clipError (s : String) : String := String.ofList (s.toList.take maxErrorLength)

inductive FailureOutcome
  | retrying (attempts : UInt32) (nextAttemptAt : Time)
  | deadLettered (attempts : UInt32)
  | unchanged
deriving DecidableEq

namespace Row

def staged (id : EventId) (occurredAt : Time) (eventType payload : String)
    (correlationId aggregateId key : Option String) (createdAt : Time) : Row where
  id; occurredAt; eventType; payload; correlationId; aggregateId; key
  processedAt := none
  error := none
  attempts := 0
  nextAttemptAt := none
  lockedBy := none
  lockedUntil := none
  deadLetteredAt := none
  createdAt

def isProcessed (r : Row) : Bool := r.processedAt.isSome

def isDeadLettered (r : Row) : Bool := r.deadLetteredAt.isSome

def isTerminal (r : Row) : Bool := r.isProcessed || r.isDeadLettered

/-- A lease holds through its last moment, and a wait ends at the moment it names. -/
def isClaimable (r : Row) (now : Time) : Bool :=
  !r.isTerminal && r.nextAttemptAt.all (· ≤ now) && r.lockedUntil.all (· < now)

def isLeased (r : Row) (now : Time) : Bool := !r.isTerminal && r.lockedUntil.any (now ≤ ·)

def isBackingOff (r : Row) (now : Time) : Bool :=
  !r.isTerminal && !r.isLeased now && r.nextAttemptAt.any (now < ·)

def partitionKey (r : Row) : String := Outbox.partitionKey r.key r.aggregateId r.correlationId r.id

/-- Oldest first; ids break ties. -/
def precedes (a b : Row) : Bool := a.occurredAt < b.occurredAt || (a.occurredAt == b.occurredAt && a.id ≤ b.id)

def leasedTo (r : Row) (worker : String) (expiry : Time) : Row :=
  { r with lockedBy := some worker, lockedUntil := some expiry }

def released (r : Row) : Row := { r with lockedBy := none, lockedUntil := none }

def processed (r : Row) (now : Time) : Row := { r.released with processedAt := some now, error := none }

/-- The largest word stays as it is. -/
def countAttempt (attempts : UInt32) : UInt32 := if attempts = 0xFFFFFFFF then attempts else attempts + 1

def failed (r : Row) (error : String) (now : Time) (policy : RetryPolicy) : Row :=
  let attempts := countAttempt r.attempts
  let next := policy.nextAttempt attempts now
  { r.released with
    attempts, error := some (clipError error), nextAttemptAt := next
    deadLetteredAt := if next.isNone then some now else r.deadLetteredAt }

def failureOutcome (attempts : UInt32) : Option Time → FailureOutcome
  | some next => .retrying attempts next
  | none => .deadLettered attempts

/-- A fresh budget of attempts. The last error stays. -/
def requeued (r : Row) : Row := { r.released with attempts := 0, deadLetteredAt := none, nextAttemptAt := none }

def toJson (r : Row) : Json :=
  .object [("id", .text r.id.text), ("occurred_at", .text r.occurredAt.text), ("event_type", .text r.eventType),
    ("payload", .text r.payload), ("correlation_id", .ofOption .text r.correlationId),
    ("aggregate_id", .ofOption .text r.aggregateId), ("key", .ofOption .text r.key),
    ("processed_at", .ofOption (.text ·.text) r.processedAt), ("error", .ofOption .text r.error),
    ("attempts", .number r.attempts.toNat), ("next_attempt_at", .ofOption (.text ·.text) r.nextAttemptAt),
    ("locked_by", .ofOption .text r.lockedBy), ("locked_until", .ofOption (.text ·.text) r.lockedUntil),
    ("dead_lettered_at", .ofOption (.text ·.text) r.deadLetteredAt), ("created_at", .text r.createdAt.text)]

end Row

end Outbox
