import Outbox.Postgres.Store
import Outbox.Proofs.Postgres.Works

namespace Outbox.Postgres.Sql.Database

variable {α β ε : Type} (e : Engine) {db db' : Database}

theorem hold_bind (d : Dialogue α) (f : α → Dialogue β) (db : Database) :
    hold e (d.bind f) db = hold e (f (hold e d db).1) (hold e d db).2 := by
  unfold hold
  rw [Dialogue.perform_bind]
  rfl

theorem hold_within (span : LogSpan) (d : Dialogue α) (db : Database) : hold e (d.within span) db = hold e d db := by
  unfold hold
  rw [Dialogue.perform_within]

def run (x : ExceptT ε Dialogue α) (db : Database) : Except ε α × Database := hold e x.run db

variable {e} {x : ExceptT ε Dialogue α} {a : α} {error : ε}

theorem run_pure (a : α) (db : Database) : run e (pure a : ExceptT ε Dialogue α) db = (.ok a, db) := rfl

theorem run_bind_ok {f : α → ExceptT ε Dialogue β} (h : run e x db = (.ok a, db')) :
    run e (x >>= f) db = run e (f a) db' := by
  unfold run at h ⊢
  rw [ExceptT.run_bind]
  exact (hold_bind e x.run _ db).trans (by rw [h])

theorem run_bind_error {f : α → ExceptT ε Dialogue β} (h : run e x db = (.error error, db')) :
    run e (x >>= f) db = (.error error, db') := by
  unfold run at h ⊢
  rw [ExceptT.run_bind]
  exact (hold_bind e x.run _ db).trans (by rw [h]; rfl)

theorem run_tryCatch_ok {f : ε → ExceptT ε Dialogue α} (h : run e x db = (.ok a, db')) :
    run e (tryCatch x f) db = (.ok a, db') := by
  unfold run at h ⊢
  rw [ExceptT.run_tryCatch]
  exact (hold_bind e x.run _ db).trans (by rw [h]; rfl)

theorem run_tryCatch_error {f : ε → ExceptT ε Dialogue α} (h : run e x db = (.error error, db')) :
    run e (tryCatch x f) db = run e (f error) db' := by
  unfold run at h ⊢
  rw [ExceptT.run_tryCatch]
  exact (hold_bind e x.run _ db).trans (by rw [h])

theorem run_adapt {ε' : Type} (f : ε → ε') (x : ExceptT ε Dialogue α) (db : Database) :
    run e (x.adapt f) db = ((run e x db).1.mapError f, (run e x db).2) :=
  hold_bind e x.run (fun r => .done (r.mapError f)) db

variable {y : Session α} {refusal : StoreError} {stmt : Statement} {result : Result} {failure : Failure}

theorem run_ofExcept (r : Except StoreError α) (db : Database) : run e (Session.ofExcept r) db = (r, db) := rfl

theorem run_ask {reply : Reply} (h : answer e stmt db = (reply, db')) :
    run e (ExceptT.lift (Dialogue.send stmt) : Session Reply) db = (.ok reply, db') :=
  congrArg (fun p : Reply × Database => ((.ok p.1 : Except StoreError Reply), p.2)) h

theorem run_send_ok (operation : String) (h : answer e stmt db = (.ok result, db')) :
    run e (Session.send operation stmt) db = (.ok result, db') := by
  rw [Session.send, run_bind_ok (run_ask h)]
  rfl

theorem run_logged (span : LogSpan) (y : Session α) (db : Database) :
    run e (Session.logged span y) db = run e y db := by
  have hrun : run e (Session.logged span y) db = run e (tryCatch y fun refusal => do
      Session.log (Session.errorEvent refusal)
      throw refusal) db := hold_within e span _ db
  rw [hrun]
  cases h : run e y db with
  | mk r db' =>
      cases r with
      | ok a => exact run_tryCatch_ok h
      | error refusal => exact run_tryCatch_error h

theorem run_orAbandon_ok (h : run e y db = (.ok a, db')) : run e (Session.orAbandon y) db = (.ok a, db') :=
  run_tryCatch_ok h

theorem run_orAbandon_error (h : run e y db = (.error refusal, db')) :
    run e (Session.orAbandon y) db = (.error refusal, (answer e .rollback db').2) :=
  run_tryCatch_error h

theorem run_abandon (db : Database) : run e Session.abandon db = (.ok (), (answer e .rollback db).2) := rfl

/-- A database in some state of a transaction, with the rows of a store. -/
structure Keeps (db : Database) (t : Transaction) (s : Outbox.Store) : Prop where
  transaction : db.transaction = t
  table : Mirrors db.table s

variable {t : Transaction} {s s' : Outbox.Store} {Q : Result → Prop} {before : List Tuple}

theorem command?_of_work? {w : Work} (h : stmt.work? = some w) : stmt.command? = some (.work w) := by
  cases stmt <;> cases h <;> rfl

theorem Keeps.answer (hk : db.Keeps t s) (ht : ∀ before, t ≠ .failed before) (h : Serves stmt s Q s') :
    ∃ result db', answer e stmt db = (.ok result, db') ∧ Q result ∧ db'.Keeps t s' := by
  obtain ⟨w, hwork, hrun⟩ := h
  obtain ⟨result, table, hresult, hq, hm⟩ := hrun (e.clock db.served) _ (hk.table.scan e db.served)
  have hdone : db.work e stmt.params w = (.ok result, { db with table }) := by
    unfold work
    rw [hk.transaction, hresult]
    cases t with
    | failed before => exact absurd rfl (ht before)
    | none | «open» before => rfl
  refine ⟨result, { db with table, served := db.served + 1 }, ?_, hq, ⟨hk.transaction, hm⟩⟩
  unfold Database.answer
  rw [command?_of_work? hwork]
  simp only [obey, hdone]

theorem Keeps.refuse (hk : db.Keeps t s) (ht : ∀ before, t ≠ .failed before) (h : Refuses stmt s failure) :
    Database.answer e stmt db = (.error failure, { db.fail with served := db.served + 1 }) := by
  obtain ⟨w, hwork, hrun⟩ := h
  have hdone : db.work e stmt.params w = (.error failure, db.fail) := by
    unfold work
    rw [hk.transaction, hrun _ _ (hk.table.scan e db.served)]
    cases t with
    | failed before => exact absurd rfl (ht before)
    | none | «open» before => rfl
  unfold Database.answer
  rw [command?_of_work? hwork]
  simp only [obey, hdone]

theorem Keeps.send (hk : db.Keeps t s) (ht : ∀ before, t ≠ .failed before) (h : Serves stmt s Q s')
    (operation : String) :
    ∃ result db', run e (Session.send operation stmt) db = (.ok result, db') ∧ Q result ∧ db'.Keeps t s' := by
  obtain ⟨result, db', hanswer, hq, hk'⟩ := hk.answer (e := e) ht h
  exact ⟨result, db', run_send_ok operation hanswer, hq, hk'⟩

theorem Keeps.start (hk : db.Keeps .none s) :
    ∃ db', run e Session.start db = (.ok (), db') ∧ db'.Keeps (.open db.table) s := by
  have hanswer : Database.answer e .beginTransaction db =
      (nothing, { db with transaction := .open db.table, served := db.served + 1 }) := by
    simp only [Database.answer, Statement.command?, obey, Database.start, hk.transaction]
  refine ⟨{ db with transaction := .open db.table, served := db.served + 1 }, ?_, rfl, hk.table⟩
  rw [Session.start, run_bind_ok (run_send_ok _ hanswer)]
  rfl

theorem Keeps.commit (hk : db.Keeps (.open before) s) :
    ∃ db', run e Session.commit db = (.ok (), db') ∧ db'.Keeps .none s := by
  have hanswer : Database.answer e .commit db =
      (nothing, { db with transaction := .none, served := db.served + 1 }) := by
    simp only [Database.answer, Statement.command?, obey, Database.commit, hk.transaction]
  refine ⟨{ db with transaction := .none, served := db.served + 1 }, run_orAbandon_ok ?_, rfl, hk.table⟩
  rw [run_bind_ok (run_send_ok _ hanswer)]
  rfl

theorem answer_rollback (h : db.transaction = .open before ∨ db.transaction = .failed before)
    (hbefore : Mirrors before s) : (Database.answer e .rollback db).2.Keeps .none s := by
  simp only [Database.answer, Statement.command?, obey, Database.rollback]
  rcases h with h | h <;> rw [h] <;> exact ⟨rfl, hbefore⟩

end Outbox.Postgres.Sql.Database
