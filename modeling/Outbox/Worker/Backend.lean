import Outbox.Abort
import Outbox.Log
import Outbox.Publisher
import Outbox.Store

namespace Outbox

inductive Interruption
  | refused (e : StoreError)
  | aborted (a : Abort)
deriving DecidableEq

/-- What a worker acts on: a clock, a store, a publisher and a log. A claim or a publish call may meet a
limit of the machine. -/
structure Backend (m : Type → Type) where
  now : m Time
  claim : Nat → String → Duration → Time → m (Except Interruption (List Row))
  publish : Message → m (Except Abort (Except PublishError Unit))
  markProcessed : EventId → Time → m (Except StoreError Unit)
  markFailed : EventId → String → Time → RetryPolicy → m (Except StoreError FailureOutcome)
  log : LogEvent → m Unit
  hearsWarnings : Bool

end Outbox
