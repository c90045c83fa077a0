import Outbox.Json.Typed
import Outbox.Row

namespace Outbox.Row

open Json

inductive Member
  | id (id : EventId)
  | time (t : Time)
  | text (s : String)
  | maybeTime (t : Option Time)
  | maybeText (s : Option String)
  | word (n : UInt32)

def timeField (name : String) : Slot Member :=
  .required name fun cs => (time cs).map fun (t, rest) => (.time t, rest)

def textField (name : String) : Slot Member :=
  .required name fun cs => (string cs).map fun (s, rest) => (.text s, rest)

def maybeTimeField (name : String) : Slot Member :=
  .nullable name (fun cs => (optional time cs).map fun (t, rest) => (.maybeTime t, rest)) (.maybeTime none)

def maybeTextField (name : String) : Slot Member :=
  .nullable name (fun cs => (optional string cs).map fun (s, rest) => (.maybeText s, rest)) (.maybeText none)

def fields : List (Slot Member) :=
  [.required "id" fun cs => (uuid cs).map fun (u, rest) => (.id ⟨u⟩, rest),
    timeField "occurred_at", textField "event_type", textField "payload", maybeTextField "correlation_id",
    maybeTextField "aggregate_id", maybeTextField "key", maybeTimeField "processed_at", maybeTextField "error",
    .required "attempts" fun cs => (word32 cs).map fun (n, rest) => (.word n, rest),
    maybeTimeField "next_attempt_at", maybeTextField "locked_by", maybeTimeField "locked_until",
    maybeTimeField "dead_lettered_at", timeField "created_at"]

def ofMembers : List Member → Except Mismatch Row
  | [.id id, .time occurredAt, .text eventType, .text payload, .maybeText correlationId, .maybeText aggregateId,
      .maybeText key, .maybeTime processedAt, .maybeText error, .word attempts, .maybeTime nextAttemptAt,
      .maybeText lockedBy, .maybeTime lockedUntil, .maybeTime deadLetteredAt, .time createdAt] =>
    .ok { id, occurredAt, eventType, payload, correlationId, aggregateId, key, processedAt, error, attempts,
          nextAttemptAt, lockedBy, lockedUntil, deadLetteredAt, createdAt }
  | _ => .error (.missingField "id")

def read : Reader Row := record "struct OutboxRow" "struct OutboxRow with 15 elements" false fields ofMembers

def parse (s : String) : Except Json.Error Row := readAll read s

end Outbox.Row
