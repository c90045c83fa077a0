import Outbox.Json.Typed
import Outbox.Json.Value
import Outbox.Postgres.Reply
import Outbox.Postgres.Statement
import Outbox.Time.Text

namespace Outbox.Postgres.Relay

open Json

def paramJson : Param → Json
  | .null => .null
  | .uuid u => .text u.text
  | .time t => .text (keptTime t).text
  | .text s => .text s
  | .number n => .number n

/-- A statement goes out as one line of JSON, and its reply comes back as another. -/
def request (s : Statement) : String :=
  let params := ",".intercalate (s.params.map fun p => (paramJson p).render)
  (Json.object [("sql", .text s.sql), ("params", .raw ("[" ++ params ++ "]"))]).render

inductive Cell
  | uuid (c : Column Uuid)
  | time (c : Column Time)
  | text (c : Column String)
  | count (c : Column Int)

variable {α : Type}

def column (read : Reader α) : Reader (Column α) := fun cs =>
  (optional read cs).map fun (a?, rest) => (match a? with | some a => .value a | none => .null, rest)

def slot (name : String) (read : Reader α) (cell : Column α → Cell) : Slot Cell :=
  .nullable name (fun cs => (column read cs).map fun (c, rest) => (cell c, rest)) (cell .missing)

def uuidSlot (name : String) : Slot Cell := slot name uuid .uuid

def timeSlot (name : String) : Slot Cell := slot name time .time

def textSlot (name : String) : Slot Cell := slot name string .text

def countSlot (name : String) : Slot Cell :=
  slot name (fun cs => (natural (largestBigint + 1) "i64" cs).map fun (n, rest) => ((n : Int), rest)) .count

def slots : List (Slot Cell) :=
  [uuidSlot "id", timeSlot "occurred_at", timeSlot "created_at", textSlot "type", textSlot "payload",
    textSlot "correlation_id", textSlot "aggregate_id", textSlot "key", timeSlot "processed_at", textSlot "error",
    countSlot "attempts", timeSlot "next_attempt_at", textSlot "locked_by", timeSlot "locked_until",
    timeSlot "dead_lettered_at", countSlot "pending", countSlot "leased", countSlot "retrying", countSlot "processed",
    countSlot "dead_lettered"]

def recordOf : List Cell → Except Mismatch Record
  | [.uuid id, .time occurredAt, .time createdAt, .text type, .text payload, .text correlationId, .text aggregateId,
      .text key, .time processedAt, .text error, .count attempts, .time nextAttemptAt, .text lockedBy,
      .time lockedUntil, .time deadLetteredAt, .count pending, .count leased, .count retrying, .count processed,
      .count deadLettered] =>
    .ok { id, occurredAt, createdAt, type, payload, correlationId, aggregateId, key, processedAt, error, attempts,
          nextAttemptAt, lockedBy, lockedUntil, deadLetteredAt, pending, leased, retrying, processed, deadLettered }
  | _ => .error (.missingField "id")

def row : Reader Record := Json.record "a row" "a row of 20 columns" false slots recordOf

inductive Part
  | rows (rs : List Record)
  | affected (n : Option Nat)
  | refusal (f : Option (String × String))

def refusal : Reader (String × String) :=
  Json.record "an error" "an error of 2 parts" false
    [.required "code" string, .required "message" string] fun
      | [code, message] => .ok (code, message)
      | _ => .error (.missingField "code")

def partSlots : List (Slot Part) :=
  [.nullable "rows" (fun cs => (list row cs).map fun (rs, rest) => (.rows rs, rest)) (.rows []),
    .nullable "affected"
      (fun cs => (optional (natural (largestBigint + 1) "u64") cs).map fun (n, rest) => (.affected n, rest))
      (.affected none),
    .nullable "error" (fun cs => (optional refusal cs).map fun (f, rest) => (.refusal f, rest)) (.refusal none)]

/-- A result affects as many rows as it holds, unless it says otherwise. -/
def replyOf : List Part → Except Mismatch Reply
  | [.rows _, .affected _, .refusal (some (code, message))] => .ok (.error (.database code message))
  | [.rows rs, .affected n, .refusal none] => .ok (.ok ⟨rs, n.getD rs.length⟩)
  | _ => .error (.missingField "rows")

def reply : Reader Reply := Json.record "a reply" "a reply of 3 parts" false partSlots replyOf

def protocolViolation : String := "08P01"

/-- The reply that a line holds. At the end of the lines there is no server any more. -/
def answer (line : Option String) : Reply :=
  match line with
  | none => .error .closed
  | some s =>
    match readAll reply s with
    | .ok r => r
    | .error e => .error (.database protocolViolation e.message)

end Outbox.Postgres.Relay
