import Outbox.Row
import Outbox.Table

namespace Outbox

inductive StoreError
  | notFound (id : EventId)
  | alreadyExists (id : EventId)
  | storage (detail : String)
  | serialization (detail : String)
  | invalidLease (lease : Duration)
deriving DecidableEq

def StoreError.message : StoreError → String
  | .notFound id => "outbox row not found: " ++ id.text
  | .alreadyExists id => "outbox row already exists: " ++ id.text
  | .storage detail => "storage error: " ++ detail
  | .serialization detail => "serialization error: " ++ detail
  | .invalidLease lease => "invalid lease duration: " ++ lease.text

def leaseExpiry (now : Time) (lease : Duration) : Except StoreError Time :=
  if lease = .zero then .error (.invalidLease lease)
  else match now.plus? lease with
    | some t => .ok t
    | none => .error (.invalidLease lease)

structure StoreStats where
  pending : Nat
  leased : Nat
  retrying : Nat
  processed : Nat
  deadLettered : Nat
deriving DecidableEq

instance : Keyed Row := ⟨fun r => r.id.uuid.value⟩

structure Store where
  rows : Table Row
deriving DecidableEq

namespace Store

def empty : Store := ⟨.empty⟩

def get? (s : Store) (id : EventId) : Option Row := s.rows.get? id.uuid.value

def put (s : Store) (r : Row) : Store := ⟨s.rows.insert r⟩

def all (s : Store) : List Row := s.rows.entries.mergeSort Row.precedes

/-- The first of the rows whose id is taken, by the store or by a row before it. -/
def clash? (s : Store) : List Row → List Row → Option EventId
  | _, [] => none
  | seen, r :: rs =>
    if (s.get? r.id).isSome ∨ seen.any (·.id = r.id) then some r.id else clash? s (r :: seen) rs

def add (s : Store) (rows : List Row) : Except StoreError Store :=
  match s.clash? [] rows with
  | some id => .error (.alreadyExists id)
  | none => .ok ⟨s.rows.insertAll rows⟩

def claimable (s : Store) (now : Time) : List Row :=
  (s.rows.entries.filter (·.isClaimable now)).mergeSort Row.precedes

def claim (s : Store) (take : Nat) (worker : String) (lease : Duration) (now : Time) :
    Except StoreError (List Row × Store) := do
  let expiry ← leaseExpiry now lease
  let batch := ((s.claimable now).take take).map (·.leasedTo worker expiry)
  return (batch, ⟨s.rows.insertAll batch⟩)

/-- A terminal row stays as it is. -/
def markProcessed (s : Store) (id : EventId) (now : Time) : Except StoreError Store :=
  match s.get? id with
  | none => .error (.notFound id)
  | some r => .ok (if r.isTerminal then s else s.put (r.processed now))

def markFailed (s : Store) (id : EventId) (error : String) (now : Time) (policy : RetryPolicy) :
    Except StoreError (FailureOutcome × Store) :=
  match s.get? id with
  | none => .error (.notFound id)
  | some r =>
    if r.isTerminal then .ok (.unchanged, s)
    else
      let failed := r.failed error now policy
      .ok (Row.failureOutcome failed.attempts failed.nextAttemptAt, s.put failed)

def deadLetterPrecedes (a b : Row) : Bool :=
  match a.deadLetteredAt, b.deadLetteredAt with
  | some s, some t => s < t || (s == t && a.id ≤ b.id)
  | none, _ => true
  | some _, none => false

def deadLetters (s : Store) (limit : Nat) : List Row :=
  ((s.rows.entries.filter Row.isDeadLettered).mergeSort deadLetterPrecedes).take limit

def requeue (s : Store) (id : EventId) : Except StoreError (Row × Store) :=
  match s.get? id with
  | some r => if r.isDeadLettered then .ok (r.requeued, s.put r.requeued) else .error (.notFound id)
  | none => .error (.notFound id)

def purge (s : Store) (before : Time) : Nat × Store :=
  let kept := s.rows.filter fun r => r.processedAt.all (before ≤ ·)
  (s.rows.size - kept.size, ⟨kept⟩)

inductive State
  | processed
  | deadLettered
  | leased
  | retrying
  | pending
deriving DecidableEq

def state (r : Row) (now : Time) : State :=
  if r.isProcessed then .processed
  else if r.isDeadLettered then .deadLettered
  else if r.isLeased now then .leased
  else if r.isBackingOff now then .retrying
  else .pending

def stats (s : Store) (now : Time) : StoreStats :=
  let count (st : State) := s.rows.entries.countP fun r => state r now = st
  ⟨count .pending, count .leased, count .retrying, count .processed, count .deadLettered⟩

end Store

end Outbox
