import Outbox.Account
import Outbox.Json.Reason
import Outbox.Json.Value
import Outbox.Time.Text

namespace Outbox

inductive AccountEvent
  | created (account : AccountId) (name cpf : String) (isActive isDeleted : Bool) (createdAt : Time)
  | activated (account : AccountId)
  | deactivated (account : AccountId)
  | deleted (account : AccountId)
  | restored (account : AccountId)
  | cpfChanged (account : AccountId) (old new : String)
  | nameChanged (account : AccountId) (old new : String)
  | updated (account : AccountId) (name cpf : String) (isActive isDeleted : Bool) (updatedAt : Time)
deriving DecidableEq

inductive AccountEvent.Kind
  | created
  | activated
  | deactivated
  | deleted
  | restored
  | cpfChanged
  | nameChanged
  | updated
deriving DecidableEq

def AccountEvent.Kind.name : AccountEvent.Kind → String
  | .created => "created"
  | .activated => "activated"
  | .deactivated => "deactivated"
  | .deleted => "deleted"
  | .restored => "restored"
  | .cpfChanged => "cpf_changed"
  | .nameChanged => "name_changed"
  | .updated => "updated"

namespace AccountEvent

def kind : AccountEvent → Kind
  | .created .. => .created
  | .activated _ => .activated
  | .deactivated _ => .deactivated
  | .deleted _ => .deleted
  | .restored _ => .restored
  | .cpfChanged .. => .cpfChanged
  | .nameChanged .. => .nameChanged
  | .updated .. => .updated

def account : AccountEvent → AccountId
  | .created a .. | .activated a | .deactivated a | .deleted a | .restored a | .cpfChanged a .. | .nameChanged a ..
  | .updated a .. => a

def typeTag (e : AccountEvent) : String := "accounts.account." ++ e.kind.name

def particulars : AccountEvent → List (String × Json)
  | .created _ name cpf isActive isDeleted t =>
    [("name", .text name), ("cpf", .text cpf), ("isActive", .flag isActive), ("isDeleted", .flag isDeleted),
      ("createdAt", .text t.text)]
  | .cpfChanged _ old new => [("oldCpf", .text old), ("newCpf", .text new)]
  | .nameChanged _ old new => [("oldName", .text old), ("newName", .text new)]
  | .updated _ name cpf isActive isDeleted t =>
    [("name", .text name), ("cpf", .text cpf), ("isActive", .flag isActive), ("isDeleted", .flag isDeleted),
      ("updatedAt", .text t.text)]
  | _ => []

def toJson (e : AccountEvent) : Json :=
  .object (("kind", .text e.kind.name) :: ("accountId", .text e.account.text) :: e.particulars)

end AccountEvent

structure CustomEvent where
  typeTag : String
  version : UInt32
  body : Except String String

structure AggregateKey where
  aggregateId : String
  key : Option String
deriving DecidableEq

namespace AggregateKey

def ofAggregate (id : String) : AggregateKey := ⟨id, some id⟩

def toJson (k : AggregateKey) : Json := .object [("aggregateId", .text k.aggregateId), ("key", .ofOption .text k.key)]

end AggregateKey

/-- A body that an event can carry: its type tag, the version of its form, and its JSON, if it can
be written. -/
class EventBody (β : Type) where
  typeTag : β → String
  version : β → UInt32
  toJson? : β → Except String Json

instance : EventBody AccountEvent := ⟨AccountEvent.typeTag, fun _ => 1, fun e => .ok e.toJson⟩

instance : EventBody CustomEvent := ⟨CustomEvent.typeTag, CustomEvent.version, fun e => e.body.map .raw⟩

instance {α β : Type} [EventBody α] [EventBody β] : EventBody (α ⊕ β) where
  typeTag := Sum.elim EventBody.typeTag EventBody.typeTag
  version := Sum.elim EventBody.version EventBody.version
  toJson? := Sum.elim EventBody.toJson? EventBody.toJson?

structure EventRecord (β : Type) where
  id : EventId
  occurredAt : Time
  version : UInt32
  body : β
  aggregate : Option AggregateKey
deriving DecidableEq

namespace EventRecord

variable {β : Type} [EventBody β]

def of (id : EventId) (occurredAt : Time) (body : β) (aggregate : Option AggregateKey) : EventRecord β :=
  ⟨id, occurredAt, EventBody.version body, body, aggregate⟩

def typeTag (r : EventRecord β) : String := EventBody.typeTag r.body

/-- The aggregate is left out. -/
def toJson? (r : EventRecord β) : Except String Json :=
  (EventBody.toJson? r.body).map fun body =>
    .object [("eventId", .text r.id.text), ("occurredOnUtc", .text r.occurredAt.text),
      ("version", .number r.version.toNat), ("body", body)]

end EventRecord

inductive EncodingError
  | unwritable (typeTag reason : String)
  | payload (e : Json.Error)

def EncodingError.message : EncodingError → String
  | .unwritable typeTag reason => "failed to encode " ++ typeTag ++ ": " ++ reason
  | .payload e => "payload is not valid JSON: " ++ e.message

structure Encoder (β : Type) where
  encode : EventRecord β → Except EncodingError String
  typeTag : EventRecord β → String

def Encoder.json {β : Type} [EventBody β] : Encoder β where
  encode r := match r.toJson? with
    | .ok j => .ok j.render
    | .error reason => .error (.unwritable r.typeTag (Json.Reason.read reason).message)
  typeTag := EventRecord.typeTag

end Outbox
