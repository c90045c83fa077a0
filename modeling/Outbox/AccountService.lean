import Outbox.Dispatch
import Outbox.Event.Emission
import Outbox.UnitOfWork

namespace Outbox

inductive ServiceError
  | domain (e : DomainError)
  | accountNotFound (id : AccountId)
  | cpfTaken (cpf : Cpf)
  | dispatch (e : DispatchError)
  | commit (e : StoreError)

def ServiceError.message : ServiceError → String
  | .domain e => e.message
  | .accountNotFound id => "account not found: " ++ id.text
  | .cpfTaken cpf => "an account with cpf " ++ cpf.text ++ " already exists"
  | .dispatch e => e.message
  | .commit e => "commit failed: " ++ e.message

/-- What the services share, and the ids of the one that acts. -/
structure Ledger where
  accounts : AccountStore
  store : Store
  ids : IdSource

inductive AccountRequest
  | create (name cpf : String)
  | changeName (id : AccountId) (name : String)
  | changeCpf (id : AccountId) (cpf : String)
  | activate (id : AccountId)
  | deactivate (id : AccountId)
  | delete (id : AccountId)
  | restore (id : AccountId)

namespace AccountService

def target : String := "bankrelay_infra::accounts"

abbrev Change := Account → Time → Except DomainError (Account × List AccountEvent)

def changingName (name : AccountName) : Change := fun a now => do
  let changed ← a.changeName name now
  return (changed, [.ofNameChanged changed a.name, ← AccountEvent.ofUpdated changed])

def changingCpf (cpf : Cpf) : Change := fun a now => do
  let changed ← a.changeCpf cpf now
  return (changed, [.ofCpfChanged changed a.cpf, ← AccountEvent.ofUpdated changed])

def activating : Change := fun a now => do
  match ← a.activate now with
  | some changed => return (changed, [.activated a.id])
  | none => return (a, [])

def deactivating : Change := fun a now => do return (← a.deactivate now, [.deactivated a.id])

def deleting : Change := fun a now => do return (← a.delete now, [.deleted a.id])

def restoring : Change := fun a now => do return (← a.restore now, [.restored a.id])

/-- The outcome of a request. Ids that were taken stay taken when it fails. -/
abbrev Answer := Except ServiceError Account × Ledger

def doneEvent (id : AccountId) (count : Nat) (action : String) : LogEvent :=
  .of .info target action [("account_id", .shown id.text), ("event_count", .number count)]

/-- What a request is about to commit: an account as it is to be and, in one unit of work, that account
with the rows of its events. -/
structure Draft where
  account : Account
  unit : UnitOfWork
  eventCount : Nat
  action : String

abbrev Drafted := Except ServiceError Draft × IdSource

def prepare (ids : IdSource) (now : Time) (correlationId : Option String) (action : String) (account : Account)
    (events : List AccountEvent) : Logged Drafted := do
  let (records, ids) := AccountEvent.recordAll now events ids
  match ← Dispatch.enqueue .json .unit now .start records correlationId with
  | (.error e, _) => return (.error (.dispatch e), ids)
  | (.ok _, u) => return (.ok ⟨account, u.save account, records.length, action⟩, ids)

def cpfIsTaken (accounts : AccountStore) (order : SearchOrder) (cpf : Cpf) (owner : Option AccountId) : Bool :=
  (accounts.findByCpf order cpf).any fun a => some a.id != owner

def create (accounts : AccountStore) (order : SearchOrder) (ids : IdSource) (now : Time)
    (correlationId : Option String) (name : AccountName) (cpf : Cpf) : Logged Drafted :=
  if cpfIsTaken accounts order cpf none then return (.error (.cpfTaken cpf), ids)
  else
    let (id, ids) := ids.take
    let account := Account.create ⟨id⟩ name cpf now
    prepare ids now correlationId "account created" account [.ofCreated account]

def change (accounts : AccountStore) (ids : IdSource) (now : Time) (correlationId : Option String) (action : String)
    (id : AccountId) (change : Change) : Logged Drafted :=
  match accounts.get? id with
  | none => return (.error (.accountNotFound id), ids)
  | some a =>
    match change a now with
    | .error e => return (.error (.domain e), ids)
    | .ok (a, events) => prepare ids now correlationId action a events

def draft (accounts : AccountStore) (order : SearchOrder) (ids : IdSource) (now : Time)
    (correlationId : Option String) : AccountRequest → Logged Drafted
  | .create name cpf =>
    match AccountName.of? name, Cpf.of? cpf with
    | .error e, _ | .ok _, .error e => return (.error (.domain e), ids)
    | .ok name, .ok cpf => create accounts order ids now correlationId name cpf
  | .changeName id name =>
    match AccountName.of? name with
    | .error e => return (.error (.domain e), ids)
    | .ok name => change accounts ids now correlationId "account renamed" id (changingName name)
  | .changeCpf id cpf =>
    match Cpf.of? cpf with
    | .error e => return (.error (.domain e), ids)
    | .ok cpf =>
      if cpfIsTaken accounts order cpf (some id) then return (.error (.cpfTaken cpf), ids)
      else change accounts ids now correlationId "account cpf changed" id (changingCpf cpf)
  | .activate id => change accounts ids now correlationId "account activated" id activating
  | .deactivate id => change accounts ids now correlationId "account deactivated" id deactivating
  | .delete id => change accounts ids now correlationId "account deleted" id deleting
  | .restore id => change accounts ids now correlationId "account restored" id restoring

def commit (l : Ledger) (d : Draft) : Logged Answer := do
  match ← d.unit.commit l.accounts l.store with
  | .error e => return (.error (.commit e), l)
  | .ok (accounts, store) =>
    Logged.log (doneEvent d.account.id d.eventCount d.action)
    return (.ok d.account, { l with accounts, store })

def handle (l : Ledger) (order : SearchOrder) (now : Time) (correlationId : Option String) (request : AccountRequest) :
    Logged Answer := do
  let (drafted, ids) ← draft l.accounts order l.ids now correlationId request
  match drafted with
  | .error e => return (.error e, { l with ids })
  | .ok d => commit { l with ids } d

end AccountService

end Outbox
