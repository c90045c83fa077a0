import Outbox.Account
import Outbox.Log
import Outbox.Store

namespace Outbox

instance : Keyed Account := ⟨fun a => a.id.uuid.value⟩

structure AccountStore where
  accounts : Table Account
deriving DecidableEq

namespace AccountStore

def empty : AccountStore := ⟨.empty⟩

def get? (s : AccountStore) (id : AccountId) : Option Account := s.accounts.get? id.uuid.value

def put (s : AccountStore) (a : Account) : AccountStore := ⟨s.accounts.insert a⟩

def putAll (s : AccountStore) (as : List Account) : AccountStore := ⟨s.accounts.insertAll as⟩

end AccountStore

/-- How the accounts of a store are gone through. No order is better than another. -/
structure SearchOrder where
  accounts : AccountStore → List Account
  perm (s : AccountStore) : (accounts s).Perm s.accounts.entries

def SearchOrder.byId : SearchOrder := ⟨fun s => s.accounts.entries, fun _ => .refl _⟩

/-- The first account with the number, of which there may be several. -/
def AccountStore.findByCpf (s : AccountStore) (order : SearchOrder) (cpf : Cpf) : Option Account :=
  (order.accounts s).find? (·.cpf = cpf)

structure UnitOfWork where
  saved : AccountStore
  staged : List Row
deriving DecidableEq

namespace UnitOfWork

def target : String := "bankrelay_infra::outbox::unit_of_work"

def start : UnitOfWork := ⟨.empty, []⟩

def load (u : UnitOfWork) (accounts : AccountStore) (id : AccountId) : Option Account :=
  (u.saved.get? id).or (accounts.get? id)

def save (u : UnitOfWork) (a : Account) : UnitOfWork := { u with saved := u.saved.put a }

def stage (u : UnitOfWork) (rows : List Row) : UnitOfWork := { u with staged := u.staged ++ rows }

/-- Both stores afterwards; an id of a row that is taken already refuses the whole unit. -/
def apply (u : UnitOfWork) (accounts : AccountStore) (store : Store) : Except StoreError (AccountStore × Store) := do
  let store ← store.add u.staged
  return (accounts.putAll u.saved.accounts.entries, store)

def committedEvent (u : UnitOfWork) : LogEvent :=
  .of .debug target "in-memory unit of work committed" [("row_count", .number u.staged.length)]

def commit (u : UnitOfWork) (accounts : AccountStore) (store : Store) :
    Logged (Except StoreError (AccountStore × Store)) := do
  match u.apply accounts store with
  | .ok stores =>
    Logged.log u.committedEvent
    return .ok stores
  | .error e => return .error e

end UnitOfWork

end Outbox
