import Outbox.Proofs.Account.Replay
import Outbox.Proofs.Account.Store
import Outbox.Proofs.Event.Record

namespace Outbox

namespace Logged

variable {α β : Type}

@[simp]
theorem value_pure (a : α) : (pure a : Logged α).value = a := rfl

@[simp]
theorem value_bind (x : Logged α) (f : α → Logged β) : (x >>= f).value = (f x.value).value := rfl

end Logged

def Row.ofRecord (correlationId : Option String) (createdAt : Time) (r : EventRecord AccountEvent) : Row :=
  .staged r.id r.occurredAt r.body.typeTag r.text correlationId (r.aggregate.map (·.aggregateId))
    (r.aggregate.bind (·.key)) createdAt

namespace Dispatch

variable {correlationId : Option String} {now : Time}

theorem rows_json (rs : List (EventRecord AccountEvent)) :
    rows .json correlationId now rs = .ok (rs.map (Row.ofRecord correlationId now)) := by
  induction rs with
  | nil => rfl
  | cons r rs ih =>
      rw [rows, row, EventRecord.encode_json, ih]
      rfl

theorem enqueue_json (rs : List (EventRecord AccountEvent)) :
    (enqueue .json .unit now UnitOfWork.start rs correlationId).value =
      (.ok rs.length, UnitOfWork.start.stage (rs.map (Row.ofRecord correlationId now))) := by
  cases rs with
  | nil => rfl
  | cons r rs =>
      simp only [enqueue, rows_json]
      simp [Staging.unit]

end Dispatch

namespace AccountEvent

def Records (now : Time) (e : AccountEvent) (r : EventRecord AccountEvent) : Prop :=
  ∃ id, r = .of id now e (some (.ofAggregate e.account.simple))

theorem recordAll_records (now : Time) (es : List AccountEvent) (ids : IdSource) :
    List.Forall₂ (Records now) es (recordAll now es ids).1 := by
  induction es generalizing ids with
  | nil => exact .nil
  | cons e es ih => exact .cons ⟨_, rfl⟩ (ih _)

def rowsOf (correlationId : Option String) (now : Time) (es : List AccountEvent) (ids : IdSource) : List Row :=
  (recordAll now es ids).1.map (Row.ofRecord correlationId now)

theorem recordAll_ids (now : Time) (es : List AccountEvent) (ids : IdSource) :
    (recordAll now es ids).1.map (·.id.uuid) = ids.takeMany es.length ∧
      (recordAll now es ids).2 = ⟨ids.id, ids.taken + es.length⟩ := by
  induction es generalizing ids with
  | nil => exact ⟨rfl, rfl⟩
  | cons e es ih =>
      obtain ⟨hids, hleft⟩ := ih ids.take.2
      have hrest : ids.takeMany (es.length + 1) = ids.take.1 :: ids.take.2.takeMany es.length := by
        simp only [IdSource.takeMany, IdSource.take, List.range_succ_eq_map, List.map_cons, List.map_map]
        refine congrArg (_ :: ·) (List.map_congr_left fun n _ => ?_)
        simp only [Function.comp_apply, Nat.add_assoc, Nat.add_comm 1 n]
      refine ⟨?_, ?_⟩
      · rw [List.length_cons, hrest, ← hids]
        rfl
      · rw [List.length_cons, Nat.add_comm es.length 1, ← Nat.add_assoc]
        exact hleft

end AccountEvent

namespace AccountService

variable {accounts : AccountStore} {ids left : IdSource} {now : Time} {correlationId : Option String} {action : String}
  {d : Draft} {order : SearchOrder} {a b : Account} {es : List AccountEvent} {request : AccountRequest}
  {id : AccountId} {c : Change}

/-- The change that a request asks for, where what it brings is valid and free. -/
inductive Asks (accounts : AccountStore) (order : SearchOrder) : AccountRequest → AccountId → Change → Prop
  | changeName (id : AccountId) (name : String) (n : AccountName) (hn : AccountName.of? name = .ok n) :
      Asks accounts order (.changeName id name) id (changingName n)
  | changeCpf (id : AccountId) (cpf : String) (c : Cpf) (hc : Cpf.of? cpf = .ok c)
      (hfree : cpfIsTaken accounts order c (some id) = false) :
      Asks accounts order (.changeCpf id cpf) id (changingCpf c)
  | activate (id : AccountId) : Asks accounts order (.activate id) id activating
  | deactivate (id : AccountId) : Asks accounts order (.deactivate id) id deactivating
  | delete (id : AccountId) : Asks accounts order (.delete id) id deleting
  | restore (id : AccountId) : Asks accounts order (.restore id) id restoring

theorem Asks.isTold (h : Asks accounts order request id c) : c.IsTold := by
  cases h with
  | changeName id name n => exact changingName_isTold n
  | changeCpf id cpf c => exact changingCpf_isTold c
  | activate => exact activating_isTold
  | deactivate => exact deactivating_isTold
  | delete => exact deleting_isTold
  | restore => exact restoring_isTold

/-- What a request leads to when nothing refuses it: the account, its events, and the ids left for those. -/
inductive Granted (accounts : AccountStore) (order : SearchOrder) (ids : IdSource) (now : Time) :
    AccountRequest → Account → List AccountEvent → IdSource → Prop
  | created (name cpf : String) (n : AccountName) (c : Cpf) (hn : AccountName.of? name = .ok n)
      (hc : Cpf.of? cpf = .ok c) (hfree : cpfIsTaken accounts order c none = false) :
      Granted accounts order ids now (.create name cpf) (.create ⟨ids.take.1⟩ n c now)
        [.ofCreated (.create ⟨ids.take.1⟩ n c now)] ids.take.2
  | changed (request : AccountRequest) (id : AccountId) (c : Change) (a b : Account) (es : List AccountEvent)
      (hask : Asks accounts order request id c) (ha : accounts.get? id = some a) (hb : c a now = .ok (b, es)) :
      Granted accounts order ids now request b es ids

inductive Outcome (accounts : AccountStore) (now : Time) : Account → List AccountEvent → Prop
  | created (id : AccountId) (name : AccountName) (cpf : Cpf) :
      Outcome accounts now (.create id name cpf now) [.ofCreated (.create id name cpf now)]
  | changed (a b : Account) (es : List AccountEvent) (ha : accounts.get? a.id = some a) (htale : a.Tale now b es) :
      Outcome accounts now b es

theorem Outcome.about (h : Outcome accounts now b es) : ∀ e ∈ es, e.account = b.id := by
  cases h with
  | created id name cpf => simp [AccountEvent.ofCreated, AccountEvent.account, Account.create]
  | changed a b es ha htale => exact fun e he => (htale.about e he).1.trans htale.id.symm

theorem Granted.outcome (h : Granted accounts order ids now request b es left) : Outcome accounts now b es := by
  cases h with
  | created name cpf n c => exact .created _ n c
  | changed request id c a b es hask ha hb =>
      obtain rfl := AccountStore.id_of_get? ha
      exact .changed a b es ha (hask.isTold a now b es hb)

theorem prepare_eq : (prepare ids now correlationId action b es).value =
    (.ok ⟨b, (UnitOfWork.start.stage (AccountEvent.rowsOf correlationId now es ids)).save b,
      (AccountEvent.recordAll now es ids).1.length, action⟩, (AccountEvent.recordAll now es ids).2) := by
  simp only [prepare, Logged.value_bind, Dispatch.enqueue_json]
  rfl

theorem Granted.later (h : Granted accounts order ids now request b es left) :
    left.id = ids.id ∧ ids.taken ≤ left.taken := by
  cases h with
  | created => exact ⟨rfl, Nat.le_succ _⟩
  | changed => exact ⟨rfl, Nat.le_refl _⟩

/-- What comes of a request before it is committed: a refusal, which takes no ids, or a draft of the account that was
granted with the rows of its events. -/
inductive Drafts (accounts : AccountStore) (order : SearchOrder) (ids : IdSource) (now : Time)
    (correlationId : Option String) (request : AccountRequest) : Drafted → Prop
  | refused (e : ServiceError) : Drafts accounts order ids now correlationId request (.error e, ids)
  | granted (d : Draft) (es : List AccountEvent) (rest : IdSource)
      (hgrant : Granted accounts order ids now request d.account es rest)
      (hunit : d.unit = (UnitOfWork.start.stage (AccountEvent.rowsOf correlationId now es rest)).save d.account) :
      Drafts accounts order ids now correlationId request (.ok d, (AccountEvent.recordAll now es rest).2)

theorem prepare_drafts (hgrant : Granted accounts order ids now request b es left) :
    Drafts accounts order ids now correlationId request (prepare left now correlationId action b es).value := by
  rw [prepare_eq]
  exact .granted _ es left hgrant rfl

theorem change_drafts (hask : Asks accounts order request id c) :
    Drafts accounts order ids now correlationId request (change accounts ids now correlationId action id c).value := by
  unfold change
  cases ha : accounts.get? id with
  | none => exact .refused _
  | some a =>
      dsimp only
      cases hca : c a now with
      | error e => exact .refused _
      | ok p =>
          obtain ⟨b, es⟩ := p
          exact prepare_drafts (.changed request id c a b es hask ha hca)

theorem draft_drafts (accounts : AccountStore) (order : SearchOrder) (ids : IdSource) (now : Time)
    (correlationId : Option String) (request : AccountRequest) :
    Drafts accounts order ids now correlationId request (draft accounts order ids now correlationId request).value := by
  cases request with
  | create name cpf =>
      simp only [draft]
      split
      · exact .refused _
      · exact .refused _
      · rename_i n c hn hc
        unfold create
        split
        · exact .refused _
        · rename_i hfree
          exact prepare_drafts (.created name cpf n c hn hc (by simpa using hfree))
  | changeName id name =>
      simp only [draft]
      split
      · exact .refused _
      · rename_i n hn
        exact change_drafts (.changeName id name n hn)
  | changeCpf id cpf =>
      simp only [draft]
      split
      · exact .refused _
      · rename_i c hc
        split
        · exact .refused _
        · rename_i hfree
          exact change_drafts (.changeCpf id cpf c hc (by simpa using hfree))
  | activate id => exact change_drafts (.activate id)
  | deactivate id => exact change_drafts (.deactivate id)
  | delete id => exact change_drafts (.delete id)
  | restore id => exact change_drafts (.restore id)

variable {l : Ledger}

theorem handle_of_error {e : ServiceError}
    (h : (draft l.accounts order l.ids now correlationId request).value = (.error e, ids)) :
    (handle l order now correlationId request).value = (.error e, { l with ids }) := by
  simp only [handle, Logged.value_bind, h, Logged.value_pure]

theorem handle_of_draft (h : (draft l.accounts order l.ids now correlationId request).value = (.ok d, ids)) :
    (handle l order now correlationId request).value = (commit { l with ids } d).value := by
  simp only [handle, Logged.value_bind, h]

theorem commit_of_error {e : StoreError} (h : d.unit.apply l.accounts l.store = .error e) :
    (commit l d).value = (.error (.commit e), l) := by
  simp only [commit, UnitOfWork.commit, Logged.value_bind, h, Logged.value_pure]

theorem commit_of_ok {accounts : AccountStore} {store : Store}
    (h : d.unit.apply l.accounts l.store = .ok (accounts, store)) :
    (commit l d).value = (.ok d.account, { l with accounts, store }) := by
  simp only [commit, UnitOfWork.commit, Logged.value_bind, h, Logged.value_pure]

theorem handle_cases (l : Ledger) (order : SearchOrder) (now : Time) (correlationId : Option String)
    (request : AccountRequest) :
    (∃ e left, (handle l order now correlationId request).value = (.error e, { l with ids := left }) ∧
      left.id = l.ids.id ∧ l.ids.taken ≤ left.taken) ∨
    ∃ d es rest store, Granted l.accounts order l.ids now request d.account es rest ∧
      (draft l.accounts order l.ids now correlationId request).value.1 = .ok d ∧
      d.unit.staged = AccountEvent.rowsOf correlationId now es rest ∧
      l.store.add d.unit.staged = .ok store ∧ (handle l order now correlationId request).value =
        (.ok d.account, ⟨l.accounts.put d.account, store, (AccountEvent.recordAll now es rest).2⟩) := by
  have hdrafts := draft_drafts l.accounts order l.ids now correlationId request
  generalize hd : (draft l.accounts order l.ids now correlationId request).value = drafted at hdrafts
  cases hdrafts with
  | refused e => exact .inl ⟨e, l.ids, handle_of_error hd, rfl, Nat.le_refl _⟩
  | granted d es rest hgrant hunit =>
      have hstaged : d.unit.staged = AccountEvent.rowsOf correlationId now es rest := by
        rw [hunit]
        rfl
      rw [handle_of_draft hd]
      cases hs : d.unit.apply l.accounts l.store with
      | error e =>
          obtain ⟨hid, htaken⟩ := hgrant.later
          refine .inl ⟨.commit e, _, commit_of_error (l := { l with ids := _ }) hs, ?_⟩
          rw [(AccountEvent.recordAll_ids now es rest).2]
          exact ⟨hid, Nat.le_trans htaken (Nat.le_add_right ..)⟩
      | ok stores =>
          obtain ⟨haccounts, hstore⟩ := UnitOfWork.apply_eq_ok (hunit ▸ hs)
          refine .inr ⟨d, es, rest, stores.2, hgrant, rfl, hstaged, hstaged ▸ hstore, ?_⟩
          rw [commit_of_ok (l := { l with ids := (AccountEvent.recordAll now es rest).2 }) hs, ← haccounts]

end AccountService

end Outbox
