import Outbox.Event
import Outbox.UnitOfWork

namespace Outbox

inductive DispatchError
  | encoding (e : EncodingError)
  | staging (e : StoreError)

def DispatchError.message : DispatchError → String
  | .encoding e => e.message
  | .staging e => "failed to stage outbox rows: " ++ e.message

/-- Stages rows in an area, or says why not. The area may be another afterwards either way. -/
abbrev Staging (σ : Type) := σ → List Row → Except StoreError Unit × σ

namespace Staging

def list : Staging (List Row) := fun area rows => (.ok (), area ++ rows)

def unit : Staging UnitOfWork := fun u rows => (.ok (), u.stage rows)

end Staging

namespace Dispatch

def target : String := "bankrelay_infra::outbox::dispatcher"

variable {β σ : Type}

def row (encoder : Encoder β) (correlationId : Option String) (createdAt : Time) (r : EventRecord β) :
    Except EncodingError Row :=
  (encoder.encode r).map fun payload =>
    .staged r.id r.occurredAt (encoder.typeTag r) payload correlationId (r.aggregate.map (·.aggregateId))
      (r.aggregate.bind (·.key)) createdAt

def rows (encoder : Encoder β) (correlationId : Option String) (createdAt : Time) :
    List (EventRecord β) → Except EncodingError (List Row)
  | [] => .ok []
  | r :: rs =>
    match row encoder correlationId createdAt r with
    | .error e => .error e
    | .ok row => (rows encoder correlationId createdAt rs).map (row :: ·)

def stagedEvent (count : Nat) (correlationId : Option String) : LogEvent :=
  .of .debug target "staged outbox rows"
    [("row_count", .number count), ("correlation_id", .quoted (correlationId.getD ""))]

/-- Stages the rows of all records, or none of them. Beside the number of rows, or what went wrong, it gives back the
area. -/
def enqueue (encoder : Encoder β) (add : Staging σ) (createdAt : Time) (area : σ) (records : List (EventRecord β))
    (correlationId : Option String) : Logged (Except DispatchError Nat × σ) :=
  if records.isEmpty then return (.ok 0, area)
  else match rows encoder correlationId createdAt records with
    | .error e => return (.error (.encoding e), area)
    | .ok rows =>
      match add area rows with
      | (.error e, area) => return (.error (.staging e), area)
      | (.ok (), area) => do
        Logged.log (stagedEvent rows.length correlationId)
        return (.ok rows.length, area)

end Dispatch

end Outbox
