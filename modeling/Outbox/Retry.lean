import Outbox.Json.Value
import Outbox.Time

namespace Outbox

structure RetryPolicy where
  maxAttempts : UInt32
  baseBackoff : Duration
  maxBackoff : Duration
deriving DecidableEq

def backoffLimit : Duration := .ofSeconds (30 * 24 * 60 * 60)

namespace RetryPolicy

def standard : RetryPolicy := ⟨10, .ofSeconds 2, .ofSeconds 300⟩

def once : RetryPolicy := { standard with maxAttempts := 1 }

/-- `2 ^ (attempt - 1)`, or the largest 32-bit word from the 33rd attempt on. -/
def doubling (attempt : UInt32) : Nat := if attempt ≤ 32 then Nat.pow 2 (attempt.toNat - 1) else 0xFFFF_FFFF

def backoff (p : RetryPolicy) (attempt : UInt32) : Duration :=
  if attempt = 0 then .zero else min (min (p.baseBackoff.scale (doubling attempt)) p.maxBackoff) backoffLimit

def shouldRetry (p : RetryPolicy) (attempts : UInt32) : Bool := attempts < p.maxAttempts

def nextAttempt (p : RetryPolicy) (attempts : UInt32) (now : Time) : Option Time :=
  if p.shouldRetry attempts then some ((now.plus? (p.backoff attempts)).getD .latest) else none

end RetryPolicy

def Duration.toJson (d : Duration) : Json := .object [("secs", .number d.seconds), ("nanos", .number d.subsecond)]

def RetryPolicy.toJson (p : RetryPolicy) : Json :=
  .object [("max_attempts", .number p.maxAttempts.toNat), ("base_backoff", p.baseBackoff.toJson),
    ("max_backoff", p.maxBackoff.toJson)]

end Outbox
