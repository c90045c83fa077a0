import Outbox.AccountService

namespace Outbox

structure Profile where
  name : String
  cpf : String
  isActive : Bool
  isDeleted : Bool
deriving DecidableEq

def Account.profile (a : Account) : Profile := ⟨a.name.text, a.cpf.text, a.isActive, a.isDeleted⟩

namespace AccountEvent

/-- What an event makes of what is known. All but a creation tell of an account that is known. -/
def apply : Option Profile → AccountEvent → Option Profile
  | _, .created _ name cpf isActive isDeleted _ => some ⟨name, cpf, isActive, isDeleted⟩
  | p?, .activated _ => p?.map fun p => { p with isActive := true }
  | p?, .deactivated _ => p?.map fun p => { p with isActive := false }
  | p?, .deleted _ => p?.map fun p => { p with isActive := false, isDeleted := true }
  | p?, .restored _ => p?.map fun p => { p with isActive := true, isDeleted := false }
  | p?, .cpfChanged _ _ new => p?.map fun p => { p with cpf := new }
  | p?, .nameChanged _ _ new => p?.map fun p => { p with name := new }
  | p?, .updated _ name cpf isActive isDeleted _ => p?.map fun _ => ⟨name, cpf, isActive, isDeleted⟩

def replay (p? : Option Profile) (es : List AccountEvent) : Option Profile := es.foldl apply p?

/-- What an event says of the time before it is so: a value that it replaces, or all that it shows. -/
def Fits (p? : Option Profile) : AccountEvent → Prop
  | .cpfChanged _ old _ => p?.map Profile.cpf = some old
  | .nameChanged _ old _ => p?.map Profile.name = some old
  | .updated _ name cpf isActive isDeleted _ => p? = some ⟨name, cpf, isActive, isDeleted⟩
  | _ => True

def Truthful : Option Profile → List AccountEvent → Prop
  | _, [] => True
  | p?, e :: es => e.Fits p? ∧ Truthful (e.apply p?) es

variable {p? : Option Profile} {es fs : List AccountEvent}

theorem replay_append : replay p? (es ++ fs) = replay (replay p? es) fs := List.foldl_append ..

theorem truthful_append : Truthful p? (es ++ fs) ↔ Truthful p? es ∧ Truthful (replay p? es) fs := by
  induction es generalizing p? with
  | nil => simp [Truthful, replay]
  | cons e es ih =>
      rw [List.cons_append, Truthful, Truthful, ih, and_assoc]
      rfl

end AccountEvent

/-- The events by which an account becomes what it is now. -/
structure Account.Tale (a : Account) (now : Time) (b : Account) (es : List AccountEvent) : Prop where
  id : b.id = a.id
  createdAt : b.createdAt = a.createdAt
  updatedAt : b.updatedAt = if es = [] then a.updatedAt else some now
  about : ∀ e ∈ es, e.account = a.id ∧ e.kind ≠ .created
  truthful : AccountEvent.Truthful (some a.profile) es
  replay : AccountEvent.replay (some a.profile) es = some b.profile

theorem Account.Tale.of_event {a b : Account} {now : Time} {e : AccountEvent} (hid : b.id = a.id)
    (hcreated : b.createdAt = a.createdAt) (hupdated : b.updatedAt = some now) (habout : e.account = a.id)
    (hkind : e.kind ≠ .created) (hfits : e.Fits (some a.profile)) (happly : e.apply (some a.profile) = some b.profile) :
    a.Tale now b [e] := by
  refine ⟨hid, hcreated, ?_, ?_, ⟨hfits, trivial⟩, happly⟩
  · rw [if_neg (List.cons_ne_nil e []), hupdated]
  · intro f hf
    obtain rfl := List.mem_singleton.1 hf
    exact ⟨habout, hkind⟩

namespace AccountService

open Account

variable {a b : Account} {now : Time} {es : List AccountEvent}

theorem changingName_eq_ok {name : AccountName} (h : changingName name a now = .ok (b, es)) :
    b = { a with name, updatedAt := some now } ∧
      es = [.ofNameChanged b a.name, .updated b.id b.name.text b.cpf.text b.isActive b.isDeleted now] := by
  by_cases hd : a.isDeleted
  · simp [changingName, changeName, hd, bind, Except.bind] at h
  · simp [changingName, changeName, hd, bind, Except.bind, AccountEvent.ofUpdated, pure, Except.pure] at h
    obtain ⟨rfl, rfl⟩ := h
    exact ⟨rfl, rfl⟩

theorem changingCpf_eq_ok {cpf : Cpf} (h : changingCpf cpf a now = .ok (b, es)) :
    b = { a with cpf, updatedAt := some now } ∧
      es = [.ofCpfChanged b a.cpf, .updated b.id b.name.text b.cpf.text b.isActive b.isDeleted now] := by
  by_cases hd : a.isDeleted
  · simp [changingCpf, changeCpf, hd, bind, Except.bind] at h
  · simp [changingCpf, changeCpf, hd, bind, Except.bind, AccountEvent.ofUpdated, pure, Except.pure] at h
    obtain ⟨rfl, rfl⟩ := h
    exact ⟨rfl, rfl⟩

theorem activating_eq_ok (h : activating a now = .ok (b, es)) :
    (a.standing = .active ∧ b = a ∧ es = []) ∨
      (a.standing = .inactive ∧ b = a.stand .active now ∧ es = [.activated a.id]) := by
  obtain ⟨id, name, cpf, standing, createdAt, updatedAt⟩ := a
  cases standing with
  | active => cases h; exact .inl ⟨rfl, rfl, rfl⟩
  | inactive => cases h; exact .inr ⟨rfl, rfl, rfl⟩
  | deleted => cases h

theorem deactivating_eq_ok (h : deactivating a now = .ok (b, es)) :
    a.standing = .active ∧ b = a.stand .inactive now ∧ es = [.deactivated a.id] := by
  obtain ⟨id, name, cpf, standing, createdAt, updatedAt⟩ := a
  cases standing with
  | active => cases h; exact ⟨rfl, rfl, rfl⟩
  | inactive | deleted => cases h

theorem deleting_eq_ok (h : deleting a now = .ok (b, es)) :
    a.standing ≠ .deleted ∧ b = a.stand .deleted now ∧ es = [.deleted a.id] := by
  obtain ⟨id, name, cpf, standing, createdAt, updatedAt⟩ := a
  cases standing with
  | active | inactive => cases h; exact ⟨by simp, rfl, rfl⟩
  | deleted => cases h

theorem restoring_eq_ok (h : restoring a now = .ok (b, es)) :
    a.standing = .deleted ∧ b = a.stand .active now ∧ es = [.restored a.id] := by
  obtain ⟨id, name, cpf, standing, createdAt, updatedAt⟩ := a
  cases standing with
  | active | inactive => cases h
  | deleted => cases h; exact ⟨rfl, rfl, rfl⟩

def Change.IsTold (c : Change) : Prop := ∀ a now b es, c a now = .ok (b, es) → a.Tale now b es

theorem changingName_isTold (name : AccountName) : (changingName name).IsTold := by
  intro a now b es h
  obtain ⟨rfl, rfl⟩ := changingName_eq_ok h
  refine ⟨rfl, rfl, rfl, ?_, ?_, rfl⟩
  · simp [AccountEvent.account, AccountEvent.kind, AccountEvent.ofNameChanged]
  · exact ⟨rfl, rfl, trivial⟩

theorem changingCpf_isTold (cpf : Cpf) : (changingCpf cpf).IsTold := by
  intro a now b es h
  obtain ⟨rfl, rfl⟩ := changingCpf_eq_ok h
  refine ⟨rfl, rfl, rfl, ?_, ?_, rfl⟩
  · simp [AccountEvent.account, AccountEvent.kind, AccountEvent.ofCpfChanged]
  · exact ⟨rfl, rfl, trivial⟩

theorem tale_stand {standing : Standing} {e : AccountEvent} (habout : e.account = a.id) (hkind : e.kind ≠ .created)
    (hfits : e.Fits (some a.profile)) (happly : e.apply (some a.profile) = some (a.stand standing now).profile) :
    a.Tale now (a.stand standing now) [e] :=
  .of_event rfl rfl rfl habout hkind hfits happly

theorem activating_isTold : Change.IsTold activating := by
  intro a now b es h
  obtain ⟨-, rfl, rfl⟩ | ⟨hs, rfl, rfl⟩ := activating_eq_ok h
  · exact ⟨rfl, rfl, rfl, by simp, trivial, rfl⟩
  · refine tale_stand rfl (by simp [AccountEvent.kind]) trivial ?_
    obtain ⟨id, name, cpf, standing, createdAt, updatedAt⟩ := a
    obtain rfl : standing = .inactive := hs
    rfl

theorem deactivating_isTold : Change.IsTold deactivating := by
  intro a now b es h
  obtain ⟨hs, rfl, rfl⟩ := deactivating_eq_ok h
  refine tale_stand rfl (by simp [AccountEvent.kind]) trivial ?_
  obtain ⟨id, name, cpf, standing, createdAt, updatedAt⟩ := a
  obtain rfl : standing = .active := hs
  rfl

theorem deleting_isTold : Change.IsTold deleting := by
  intro a now b es h
  obtain ⟨-, rfl, rfl⟩ := deleting_eq_ok h
  exact tale_stand rfl (by simp [AccountEvent.kind]) trivial rfl

theorem restoring_isTold : Change.IsTold restoring := by
  intro a now b es h
  obtain ⟨-, rfl, rfl⟩ := restoring_eq_ok h
  exact tale_stand rfl (by simp [AccountEvent.kind]) trivial rfl

end AccountService

end Outbox
