import Outbox.Event
import Outbox.Json.Content

namespace Outbox

open Json

namespace AccountEvent

def kinds : List (String × Kind) :=
  [Kind.created, .activated, .deactivated, .deleted, .restored, .cpfChanged, .nameChanged, .updated].map
    fun k => (k.name, k)

inductive Particular
  | account (id : AccountId)
  | text (s : String)
  | flag (b : Bool)
  | time (t : Time)

inductive Particular.Form
  | account
  | text
  | flag
  | time
deriving DecidableEq

def Particular.Form.decode : Particular.Form → Content → Except Mismatch Particular
  | .account, c => c.asUuid.map fun u => .account ⟨u⟩
  | .text, c => c.asString.map .text
  | .flag, c => c.asFlag.map .flag
  | .time, c => c.asTime.map .time

def wholeAccount (timeName : String) : List (String × Particular.Form) :=
  [("accountId", .account), ("name", .text), ("cpf", .text), ("isActive", .flag), ("isDeleted", .flag),
    (timeName, .time)]

def Kind.fields : Kind → List (String × Particular.Form)
  | .created => wholeAccount "createdAt"
  | .cpfChanged => [("accountId", .account), ("oldCpf", .text), ("newCpf", .text)]
  | .nameChanged => [("accountId", .account), ("oldName", .text), ("newName", .text)]
  | .updated => wholeAccount "updatedAt"
  | _ => [("accountId", .account)]

def Kind.decoders (k : Kind) : List (String × (Content → Except Mismatch Particular)) :=
  k.fields.map fun (name, form) => (name, form.decode)

def Kind.title : Kind → String
  | .created => "Created"
  | .activated => "Activated"
  | .deactivated => "Deactivated"
  | .deleted => "Deleted"
  | .restored => "Restored"
  | .cpfChanged => "CpfChanged"
  | .nameChanged => "NameChanged"
  | .updated => "Updated"

def ofParticulars? : Kind → List Particular → Option AccountEvent
  | .created, [.account a, .text name, .text cpf, .flag isActive, .flag isDeleted, .time t] =>
    some (.created a name cpf isActive isDeleted t)
  | .activated, [.account a] => some (.activated a)
  | .deactivated, [.account a] => some (.deactivated a)
  | .deleted, [.account a] => some (.deleted a)
  | .restored, [.account a] => some (.restored a)
  | .cpfChanged, [.account a, .text old, .text new] => some (.cpfChanged a old new)
  | .nameChanged, [.account a, .text old, .text new] => some (.nameChanged a old new)
  | .updated, [.account a, .text name, .text cpf, .flag isActive, .flag isDeleted, .time t] =>
    some (.updated a name cpf isActive isDeleted t)
  | _, _ => none

def ofTagged (t : Tagged Kind) : Except Mismatch AccountEvent := do
  let (kind, particulars) ← match t with
    | .object kind ms => (keptMembers kind.decoders [] ms).map (kind, ·)
    | .list kind es =>
      let expected := "struct variant AccountEvent::" ++ kind.title
      (keptElements expected kind.fields.length 0 kind.decoders es).map (kind, ·)
  match ofParticulars? kind particulars with
  | some e => return e
  | none => throw (.missingField "kind")

/-- The particulars are looked at only when the whole value has been read. -/
def read (depth : Nat) : Reader AccountEvent := fun cs => do
  let (t, rest) ← tagged "internally tagged enum AccountEvent" "kind" (variant kinds) depth cs
  match ofTagged t with
  | .ok e => return (e, rest)
  | .error m => throw (.within m rest)

def parse (s : String) : Except Json.Error AccountEvent := readAll (read 128) s

end AccountEvent

namespace EventRecord

inductive Member
  | id (id : EventId)
  | time (t : Time)
  | version (v : UInt32)
  | body (e : AccountEvent)

def fields : List (Slot Member) :=
  [.required "eventId" fun cs => (uuid cs).map fun (u, rest) => (.id ⟨u⟩, rest),
    .required "occurredOnUtc" fun cs => (time cs).map fun (t, rest) => (.time t, rest),
    ⟨"version", fun cs => (word32 cs).map fun (v, rest) => (.version v, rest), some (.version 1), some (.version 1)⟩,
    .required "body" fun cs => (AccountEvent.read 127 cs).map fun (e, rest) => (.body e, rest)]

def ofMembers : List Member → Except Mismatch (EventRecord AccountEvent)
  | [.id id, .time t, .version v, .body e] => .ok ⟨id, t, v, e, none⟩
  | _ => .error (.missingField "body")

def read : Reader (EventRecord AccountEvent) :=
  record "struct EventRecord" "struct EventRecord with 4 elements" false fields ofMembers

/-- A record without a version has the first one. -/
def parse (s : String) : Except Json.Error (EventRecord AccountEvent) := readAll read s

end EventRecord

namespace AggregateKey

def ofMembers : List (Option String) → Except Mismatch AggregateKey
  | [some id, key] => .ok ⟨id, key⟩
  | _ => .error (.missingField "aggregateId")

def read : Reader AggregateKey :=
  record "struct AggregateKey" "struct AggregateKey with 2 elements" false
    [.required "aggregateId" fun cs => (string cs).map fun (s, rest) => (some s, rest),
      .nullable "key" (optional string) none] ofMembers

def parse (s : String) : Except Json.Error AggregateKey := readAll read s

end AggregateKey

end Outbox
