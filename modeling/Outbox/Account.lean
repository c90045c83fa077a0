import Outbox.Id
import Outbox.Text.Blank
import Outbox.Time

namespace Outbox

inductive DomainError
  | validation (detail : String)
  | invariant (detail : String)
  | invalidId (detail : String)
  | conflict (detail : String)
deriving DecidableEq

def DomainError.message : DomainError → String
  | .validation detail => "validation failed: " ++ detail
  | .invariant detail => "invariant violated: " ++ detail
  | .invalidId detail => "invalid identifier: " ++ detail
  | .conflict detail => "conflict: " ++ detail

def EventId.read (s : String) : Except DomainError EventId :=
  match Uuid.read s with
  | .ok u => .ok ⟨u⟩
  | .error m => .error (.invalidId ("EventId: " ++ m.message))

def AccountId.read (s : String) : Except DomainError AccountId :=
  match Uuid.read s with
  | .ok u => .ok ⟨u⟩
  | .error m => .error (.invalidId ("AccountId: " ++ m.message))

structure AccountName where
  text : String
deriving DecidableEq

structure Cpf where
  text : String
deriving DecidableEq

def AccountName.of? (s : String) : Except DomainError AccountName :=
  if Text.trim s = "" then .error (.validation "name cannot be empty") else .ok ⟨Text.trim s⟩

def Cpf.of? (s : String) : Except DomainError Cpf :=
  if Text.trim s = "" then .error (.validation "cpf cannot be empty") else .ok ⟨Text.trim s⟩

/-- A deleted account is never active. -/
inductive Standing
  | active
  | inactive
  | deleted
deriving DecidableEq

structure Account where
  id : AccountId
  name : AccountName
  cpf : Cpf
  standing : Standing
  createdAt : Time
  updatedAt : Option Time
deriving DecidableEq

namespace Account

def isActive (a : Account) : Bool := a.standing == .active

def isDeleted (a : Account) : Bool := a.standing == .deleted

def create (id : AccountId) (name : AccountName) (cpf : Cpf) (now : Time) : Account :=
  ⟨id, name, cpf, .active, now, none⟩

def ofParts (id : AccountId) (name : AccountName) (cpf : Cpf) (isActive isDeleted : Bool) (createdAt : Time)
    (updatedAt : Option Time) : Except DomainError Account :=
  match isActive, isDeleted with
  | true, true => .error (.invariant "a deleted account cannot be active")
  | true, false => .ok ⟨id, name, cpf, .active, createdAt, updatedAt⟩
  | false, true => .ok ⟨id, name, cpf, .deleted, createdAt, updatedAt⟩
  | false, false => .ok ⟨id, name, cpf, .inactive, createdAt, updatedAt⟩

def stand (a : Account) (standing : Standing) (now : Time) : Account :=
  { a with standing := standing, updatedAt := some now }

def changeName (a : Account) (name : AccountName) (now : Time) : Except DomainError Account :=
  if a.isDeleted then .error (.conflict "cannot rename a deleted account")
  else .ok { a with name := name, updatedAt := some now }

def changeCpf (a : Account) (cpf : Cpf) (now : Time) : Except DomainError Account :=
  if a.isDeleted then .error (.conflict "cannot change the cpf of a deleted account")
  else .ok { a with cpf := cpf, updatedAt := some now }

/-- None where the account is active already. -/
def activate (a : Account) (now : Time) : Except DomainError (Option Account) :=
  match a.standing with
  | .deleted => .error (.conflict "cannot activate a deleted account; restore it first")
  | .active => .ok none
  | .inactive => .ok (some (a.stand .active now))

def deactivate (a : Account) (now : Time) : Except DomainError Account :=
  match a.standing with
  | .active => .ok (a.stand .inactive now)
  | _ => .error (.conflict "account is already deactivated")

def delete (a : Account) (now : Time) : Except DomainError Account :=
  match a.standing with
  | .deleted => .error (.conflict "account is already deleted")
  | _ => .ok (a.stand .deleted now)

def restore (a : Account) (now : Time) : Except DomainError Account :=
  match a.standing with
  | .deleted => .ok (a.stand .active now)
  | _ => .error (.conflict "cannot restore an account that is not deleted")

end Account

end Outbox
