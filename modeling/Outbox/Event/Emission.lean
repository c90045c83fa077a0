import Outbox.Event

namespace Outbox

namespace AccountEvent

def ofCreated (a : Account) : AccountEvent :=
  .created a.id a.name.text a.cpf.text a.isActive a.isDeleted a.createdAt

def ofCpfChanged (a : Account) (old : Cpf) : AccountEvent := .cpfChanged a.id old.text a.cpf.text

def ofNameChanged (a : Account) (old : AccountName) : AccountEvent := .nameChanged a.id old.text a.name.text

/-- The whole account as it is now; none if it was never modified. -/
def ofUpdated (a : Account) : Except DomainError AccountEvent :=
  match a.updatedAt with
  | some t => .ok (.updated a.id a.name.text a.cpf.text a.isActive a.isDeleted t)
  | none => .error (.invariant "cannot build an updated event for a never-modified account")

def record (e : AccountEvent) (now : Time) (ids : IdSource) : EventRecord AccountEvent × IdSource :=
  let (id, ids) := ids.take
  (.of ⟨id⟩ now e (some (.ofAggregate e.account.simple)), ids)

def recordAll (now : Time) : List AccountEvent → IdSource → List (EventRecord AccountEvent) × IdSource
  | [], ids => ([], ids)
  | e :: es, ids =>
    let (r, ids) := e.record now ids
    let (rs, ids) := recordAll now es ids
    (r :: rs, ids)

end AccountEvent

end Outbox
