import Outbox.Event
import Outbox.Json.Raw
import Outbox.Row

namespace Outbox

/-- A message as it is published. The payload is the text of one JSON value. -/
structure Envelope where
  eventType : String
  eventId : EventId
  occurredAt : Time
  correlationId : Option String
  aggregateId : Option String
  key : Option String
  payload : String
deriving DecidableEq

namespace Envelope

/-- The payload is kept as it is written, without the blanks around it. -/
def of? (eventType : String) (eventId : EventId) (occurredAt : Time) (correlationId aggregateId key : Option String)
    (payload : String) : Except EncodingError Envelope :=
  match Json.trimmed payload with
  | .ok payload => .ok ⟨eventType, eventId, occurredAt, correlationId, aggregateId, key, payload⟩
  | .error e => .error (.payload e)

def partitionKey (e : Envelope) : String := Outbox.partitionKey e.key e.aggregateId e.correlationId e.eventId

def toJson (e : Envelope) : Json :=
  .object [("type", .text e.eventType), ("eventId", .text e.eventId.text), ("occurredOnUtc", .text e.occurredAt.text),
    ("correlationId", .ofOption .text e.correlationId), ("aggregateId", .ofOption .text e.aggregateId),
    ("key", .ofOption .text e.key), ("payload", .raw e.payload)]

def text (e : Envelope) : String := e.toJson.render

end Envelope

def Row.envelope? (r : Row) : Except EncodingError Envelope :=
  Envelope.of? r.eventType r.id r.occurredAt r.correlationId r.aggregateId r.key r.payload

end Outbox
