import Outbox.Proofs.Account.Draft
import Outbox.Proofs.Store.Effects

namespace Outbox

def AccountRequest.kinds (accounts : AccountStore) : AccountRequest → List AccountEvent.Kind
  | .create _ _ => [.created]
  | .changeName _ _ => [.nameChanged, .updated]
  | .changeCpf _ _ => [.cpfChanged, .updated]
  | .activate id => if (accounts.get? id).any Account.isActive then [] else [.activated]
  | .deactivate _ => [.deactivated]
  | .delete _ => [.deleted]
  | .restore _ => [.restored]

/-- A row that nothing has happened to since an event of the account was recorded at that time. -/
structure Row.TellsOf (r : Row) (id : AccountId) (correlationId : Option String) (now : Time) : Prop where
  fresh : r.IsStaged
  correlationId : r.correlationId = correlationId
  aggregateId : r.aggregateId = some id.simple
  key : r.key = some id.simple
  occurredAt : r.occurredAt = now
  createdAt : r.createdAt = now

/-- The second store has the rows of the first and, under ids of their own, some more. -/
structure Store.Gains (s : Store) (rows : List Row) (s' : Store) : Prop where
  nodup : (rows.map (·.id)).Nodup
  free : ∀ r ∈ rows, s.get? r.id = none
  mem : ∀ r, r ∈ s'.rows.entries ↔ r ∈ rows ∨ r ∈ s.rows.entries

theorem Store.gains_of_add {s s' : Store} {rows : List Row} (h : s.add rows = .ok s') : s.Gains rows s' :=
  ⟨(add_eq_ok h).1, (add_eq_ok h).2.1, fun _ => mem_of_add h⟩

namespace AccountEvent

variable {correlationId : Option String} {now : Time} {es : List AccountEvent} {ids : IdSource}

theorem rowsOf_tell (correlationId : Option String) (now : Time) (es : List AccountEvent) (ids : IdSource) :
    List.Forall₂ (fun e r => r.eventType = e.typeTag ∧ r.TellsOf e.account correlationId now) es
      (rowsOf correlationId now es ids) := by
  refine List.forall₂_map_right_iff.2 ((recordAll_records now es ids).imp ?_)
  rintro e r ⟨id, rfl⟩
  exact ⟨rfl, rfl, rfl, rfl, rfl, rfl, rfl⟩

theorem eventTypes_rowsOf : (rowsOf correlationId now es ids).map (·.eventType) = es.map typeTag := by
  rw [← List.forall₂_eq_eq_eq, List.forall₂_map_left_iff, List.forall₂_map_right_iff]
  exact (rowsOf_tell correlationId now es ids).flip.imp fun _ _ h => h.1

theorem tellsOf_rowsOf {id : AccountId} (habout : ∀ e ∈ es, e.account = id) :
    ∀ r ∈ rowsOf correlationId now es ids, r.TellsOf id correlationId now := by
  have htell := rowsOf_tell correlationId now es ids
  generalize rowsOf correlationId now es ids = rows at htell
  induction htell with
  | nil => simp
  | cons h _ ih =>
      obtain ⟨rfl, hes⟩ := List.forall_mem_cons.1 habout
      exact List.forall_mem_cons.2 ⟨h.2, ih hes⟩

@[simp]
theorem length_rowsOf : (rowsOf correlationId now es ids).length = es.length :=
  (rowsOf_tell correlationId now es ids).length_eq.symm

theorem ids_rowsOf : (rowsOf correlationId now es ids).map (·.id.uuid) = ids.takeMany es.length := by
  rw [← (recordAll_ids now es ids).1, rowsOf, List.map_map]
  rfl

theorem trimmed_rowsOf : ∀ r ∈ rowsOf correlationId now es ids, Json.trimmed r.payload = .ok r.payload := by
  intro r hr
  obtain ⟨record, -, rfl⟩ := List.mem_map.1 hr
  exact record.trimmed_text

end AccountEvent

namespace AccountService

variable {accounts : AccountStore} {order : SearchOrder} {ids rest : IdSource} {now : Time} {request : AccountRequest}
  {b : Account} {es : List AccountEvent}

theorem Granted.kinds (h : Granted accounts order ids now request b es rest) :
    es.map AccountEvent.kind = request.kinds accounts := by
  cases h with
  | created => rfl
  | changed _ id c a _ _ hask ha hb =>
      cases hask with
      | changeName => rw [(changingName_eq_ok hb).2]; rfl
      | changeCpf => rw [(changingCpf_eq_ok hb).2]; rfl
      | activate =>
          rw [AccountRequest.kinds, ha, Option.any_some, Account.isActive]
          obtain ⟨hs, -, rfl⟩ | ⟨hs, -, rfl⟩ := activating_eq_ok hb
          · rw [hs]
            rfl
          · rw [hs]
            rfl
      | deactivate => rw [(deactivating_eq_ok hb).2.2]; rfl
      | delete => rw [(deleting_eq_ok hb).2.2]; rfl
      | restore => rw [(restoring_eq_ok hb).2.2]; rfl

/-- In whatever order the accounts are searched, a request that fails leaves both stores as they were. One that
succeeds stores the account it answers with and adds the rows of its events, which take the ids that come next, and
changes nothing else. -/
theorem handle_all_or_nothing (l : Ledger) (order : SearchOrder) (now : Time) (correlationId : Option String)
    (request : AccountRequest) :
    match (handle l order now correlationId request).value with
    | (.error _, l') => l'.accounts = l.accounts ∧ l'.store = l.store
    | (.ok a, l') =>
        (∀ id, l'.accounts.get? id = if id = a.id then some a else l.accounts.get? id) ∧
        ∃ rows taken, l.store.Gains rows l'.store ∧
          rows.map (·.eventType) = (request.kinds l.accounts).map ("accounts.account." ++ ·.name) ∧
          (∀ r ∈ rows, r.TellsOf a.id correlationId now) ∧
          rows.map (·.id.uuid) = (⟨l.ids.id, taken⟩ : IdSource).takeMany rows.length ∧
          l'.ids = ⟨l.ids.id, taken + rows.length⟩ := by
  rcases handle_cases l order now correlationId request with
    ⟨e, left, he, -⟩ | ⟨d, es, rest, store, hgrant, -, hstaged, hadd, he⟩
  · rw [he]
    exact ⟨rfl, rfl⟩
  rw [hstaged] at hadd
  rw [he]
  refine ⟨fun id => ?_, AccountEvent.rowsOf correlationId now es rest, rest.taken, Store.gains_of_add hadd, ?_,
    AccountEvent.tellsOf_rowsOf hgrant.outcome.about, ?_, ?_⟩
  · rw [AccountStore.get?_put]
    simp only [eq_comm]
  · rw [AccountEvent.eventTypes_rowsOf, ← hgrant.kinds, List.map_map]
    rfl
  · rw [AccountEvent.ids_rowsOf, AccountEvent.length_rowsOf, ← hgrant.later.1]
  · rw [AccountEvent.length_rowsOf, ← hgrant.later.1, (AccountEvent.recordAll_ids now es rest).2]

/-- Of two accounts with one number, the first may keep it only if the search comes upon it before the other. -/
example :
    let twin (id : Nat) (name : String) : Account := .create ⟨.ofNat id⟩ ⟨name⟩ ⟨"11144477735"⟩ .epoch
    let l : Ledger := ⟨(AccountStore.empty.put (twin 1 "Ana")).put (twin 2 "Bea"), .empty, .sequential 3⟩
    let fromLast : SearchOrder := ⟨fun s => s.accounts.entries.reverse, fun _ => List.reverse_perm _⟩
    let answer (order : SearchOrder) := (handle l order .epoch none (.changeCpf ⟨.ofNat 1⟩ "11144477735")).value.1
    (answer .byId).isOk = true ∧ (answer fromLast).isOk = false := by
  decide +kernel

end AccountService

end Outbox
