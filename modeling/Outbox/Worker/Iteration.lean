import Outbox.Envelope
import Outbox.Settings
import Outbox.Worker.Backend
import Outbox.Worker.Report

namespace Outbox

inductive DeliveryError
  | encoding (e : EncodingError)
  | publish (e : PublishError)

def DeliveryError.message : DeliveryError → String
  | .encoding e => e.message
  | .publish e => e.message

def Row.message? (r : Row) (topic : String) : Except EncodingError Message :=
  r.envelope?.map fun e => ⟨topic, e.partitionKey, e.text⟩

namespace Worker

def target : String := "bankrelay_infra::outbox::processor"

variable (s : Settings) (r : Row)

def claimedEvent (count : Nat) : LogEvent :=
  .of .debug target "claimed outbox batch" [("worker_id", .shown s.workerId), ("claimed", .number count)]

def rowEvent (level : Level) (message : String) (fields : List (String × LogValue)) : LogEvent :=
  .of level target message (("worker_id", .quoted s.workerId) :: ("outbox_id", .shown r.id.text) :: fields)

def publishedEvent : LogEvent := rowEvent s r .debug "published" [("event_type", .shown r.eventType)]

def unprocessedEvent (e : StoreError) : LogEvent :=
  rowEvent s r .error "failed to mark outbox row processed" [("error", .shown e.message)]

def publishFailedEvent (attempts : UInt32) (error : String) : LogEvent :=
  rowEvent s r .warn "publish failed" [("attempts", .number attempts.toNat), ("error", .shown error)]

def retryEvent (attempts : UInt32) (next : Time) : LogEvent :=
  rowEvent s r .debug "scheduled retry"
    [("attempts", .number attempts.toNat), ("next_attempt_at", .shown next.spacedText)]

def deadLetterEvent (attempts : UInt32) (error : String) : LogEvent :=
  rowEvent s r .error "outbox row dead-lettered" [("attempts", .number attempts.toNat), ("error", .shown error)]

def unfailedEvent (e : StoreError) : LogEvent :=
  rowEvent s r .error "failed to mark outbox row failed" [("error", .shown e.message)]

variable {m : Type → Type} [Monad m] (b : Backend m)

def deliver : ExceptT Abort m (Except DeliveryError Unit) :=
  match r.message? s.topic with
  | .error e => return .error (.encoding e)
  | .ok message => do return (← ExceptT.mk (b.publish message)).mapError .publish

def resolveDelivered : m Resolution := do
  match ← b.markProcessed r.id (← b.now) with
  | .ok () =>
    b.log (publishedEvent s r)
    return .published
  | .error e =>
    b.log (unprocessedEvent s r e)
    return .unwritten

def resolveFailed (error : String) : m Resolution := do
  match ← b.markFailed r.id error (← b.now) s.retry with
  | .ok (.retrying attempts next) =>
    b.log (retryEvent s r attempts next)
    return .retried
  | .ok (.deadLettered attempts) =>
    b.log (deadLetterEvent s r attempts error)
    return .deadLettered
  | .ok .unchanged => return .unchanged
  | .error e =>
    b.log (unfailedEvent s r e)
    return .unwritten

def warn (error : String) : ExceptT Abort m Unit := do
  if b.hearsWarnings then
    if r.attempts = 0xFFFFFFFF then throw .counter
    else b.log (publishFailedEvent s r (r.attempts + 1) error)

def dispatch : ExceptT Abort m Resolution := do
  match ← deliver s r b with
  | .ok () => .lift (resolveDelivered s r b)
  | .error e => do
    warn s r b e.message
    .lift (resolveFailed s r b e.message)

def dispatchAll : List Row → Report → ExceptT Abort m Report
  | [], report => return report
  | r :: rows, report => do dispatchAll rows (report.count (← dispatch s r b))

/-- One iteration: claim a batch, publish its rows in order, resolve each. -/
def runOnce : ExceptT Interruption m Report := do
  let now ← b.now
  let batch ← ExceptT.mk (b.claim s.batchSize s.workerId s.lease now)
  if batch.isEmpty then return .ofClaimed 0
  b.log (claimedEvent s batch.length)
  (dispatchAll s b batch (.ofClaimed batch.length)).adapt .aborted

end Worker

end Outbox
