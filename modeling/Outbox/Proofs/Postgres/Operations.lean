import Outbox.Proofs.Postgres.Conversation
import Outbox.Proofs.Store.Insertion

namespace Outbox.Postgres.Sql.Database

open Outbox.Store (Operation)

variable {α : Type} {e : Engine} {db : Database} {s : Outbox.Store} {id : EventId} {now : Time} {r : Row}
  {before : List Tuple}

/-- A session ends with a result and outside any transaction, on the rows of a store. -/
def Yields (e : Engine) (db : Database) (y : Session α) (result : Except StoreError α) (s : Outbox.Store) : Prop :=
  ∃ db', run e y db = (result, db') ∧ db'.Keeps .none s

theorem none_ne_failed (before : List Tuple) : Transaction.none ≠ .failed before := by
  rintro ⟨⟩

theorem open_ne_failed (before before' : List Tuple) : Transaction.open before ≠ .failed before' := by
  rintro ⟨⟩

theorem run_toRow (r : Row) (db : Database) :
    run e (Session.ofExcept (record Field.all (ofRow r)).toRow) db = (.ok r, db) := by
  rw [run_ofExcept, toRow_record]

theorem mapM_toRow (rows : List Row) :
    (rows.map fun r => record Field.all (ofRow r)).mapM Record.toRow = (.ok rows : Except StoreError (List Row)) := by
  induction rows with
  | nil => rfl
  | cons r rows ih =>
      rw [List.map_cons, List.mapM_cons, toRow_record, ih]
      rfl

theorem yields_logged (span : LogSpan) {y : Session α} {result : Except StoreError α} (h : Yields e db y result s) :
    Yields e db (Session.logged span y) result s := by
  obtain ⟨db', hrun, hk⟩ := h
  exact ⟨db', (run_logged span y db).trans hrun, hk⟩

theorem yields_get (hk : db.Keeps .none s) (id : EventId) :
    Yields e db (Store.get? id) (.ok (s.get? id)) s := by
  obtain ⟨result, db', hrun, hrecords, hk'⟩ := hk.send (e := e) none_ne_failed (serves_select_id id) "get"
  refine ⟨db', ?_, hk'⟩
  rw [Store.get?, run_bind_ok hrun, hrecords]
  cases s.get? id with
  | none => rfl
  | some r => exact run_bind_ok (run_toRow r db')

theorem yields_deadLetters (hk : db.Keeps .none s) (hsize : s.rows.size ≤ largestBigint) (limit : Nat) :
    Yields e db (Store.deadLetters limit) (.ok (s.deadLetters limit)) s := by
  obtain ⟨result, db', hrun, hrecords, hk'⟩ :=
    hk.send (e := e) none_ne_failed (serves_selectDeadLetters hsize limit) "list_dead_letters"
  refine ⟨db', ?_, hk'⟩
  rw [Store.deadLetters, run_bind_ok hrun, hrecords, run_ofExcept, mapM_toRow]

theorem run_count {name : String} {c : Column Int} {n : Nat} (hc : c = .value n) (db : Database) :
    run e (Store.count name c) db = (.ok n, db) := by
  subst hc
  rfl

theorem yields_stats (hk : db.Keeps .none s)
    (hends : ∀ r ∈ s.rows.entries, ¬ (r.isProcessed = true ∧ r.isDeadLettered = true)) (now : Time) :
    Yields e db (Store.stats now) (.ok (s.stats now)) s := by
  obtain ⟨result, db', hrun, ⟨r, hrecords, hpending, hleased, hretrying, hprocessed, hdead⟩, hk'⟩ :=
    hk.send (e := e) none_ne_failed (serves_countStates hends now) "stats"
  refine ⟨db', ?_, hk'⟩
  rw [Store.stats, run_bind_ok hrun, hrecords]
  simp only [List.head?_cons]
  rw [run_bind_ok (run_count hpending db'), run_bind_ok (run_count hleased db'), run_bind_ok (run_count hretrying db'),
    run_bind_ok (run_count hprocessed db'), run_bind_ok (run_count hdead db')]
  rfl

theorem yields_purge (hk : db.Keeps .none s) (before : Time) :
    Yields e db (Store.purge before) (.ok (s.purge before).1) (s.purge before).2 := by
  obtain ⟨result, db', hrun, haffected, hk'⟩ :=
    hk.send (e := e) none_ne_failed (serves_purge s before) "purge_processed"
  refine ⟨db', ?_, hk'⟩
  rw [Store.purge, run_bind_ok hrun, haffected]
  rfl

theorem yields_requeue (hk : db.Keeps .none s) (hs : AllStorable s) (id : EventId)
    (hs' : AllStorable (s.answer (.requeue id)).2) :
    Yields e db (Store.requeue id) ((s.requeue id).map (·.1)) (s.answer (.requeue id)).2 := by
  by_cases hdead : ∃ r, s.get? id = some r ∧ r.isDeadLettered = true
  · obtain ⟨r, hr, hdead⟩ := hdead
    simp only [Outbox.Store.answer, Outbox.Store.requeue_dead hr hdead, Outbox.Store.reply] at hs' ⊢
    obtain ⟨result, db', hrun, hrecords, hk'⟩ :=
      hk.send (e := e) none_ne_failed (serves_requeue_hit hr hdead hs') "requeue_dead_letter"
    refine ⟨db', ?_, hk'⟩
    rw [Store.requeue, run_bind_ok hrun, hrecords]
    exact run_toRow r.requeued db'
  · have hmiss : ∀ r, s.get? id = some r → r.isDeadLettered = false := by
      intro r hr
      rw [← Bool.not_eq_true]
      exact fun hd => hdead ⟨r, hr, hd⟩
    simp only [Outbox.Store.answer, Outbox.Store.requeue_missing hmiss, Outbox.Store.reply] at hs' ⊢
    obtain ⟨result, db', hrun, hrecords, hk'⟩ :=
      hk.send (e := e) none_ne_failed (serves_requeue_miss hmiss hs) "requeue_dead_letter"
    refine ⟨db', ?_, hk'⟩
    rw [Store.requeue, run_bind_ok hrun, hrecords]
    rfl

theorem run_isThere (hk : db.Keeps .none s) (id : EventId) :
    ∃ db', run e (Store.isThere id) db = (.ok (s.get? id).isSome, db') ∧ db'.Keeps .none s := by
  obtain ⟨result, db', hrun, hrecords, hk'⟩ := hk.send (e := e) none_ne_failed (serves_probe id) "exists"
  refine ⟨db', ?_, hk'⟩
  rw [Store.isThere, run_bind_ok hrun, hrecords]
  cases s.get? id <;> rfl

theorem yields_markProcessed (hk : db.Keeps .none s) (hs : AllStorable s) (id : EventId) (now : Time)
    (hs' : AllStorable (s.answer (.markProcessed id now)).2) :
    Yields e db (Store.markProcessed id now) ((s.markProcessed id now).map fun _ => ())
      (s.answer (.markProcessed id now)).2 := by
  refine yields_logged _ ?_
  by_cases hlive : ∃ r, s.get? id = some r ∧ r.isTerminal = false
  · obtain ⟨r, hr, hlive⟩ := hlive
    simp only [Outbox.Store.answer, Outbox.Store.markProcessed_live hr hlive, Outbox.Store.reply] at hs' ⊢
    obtain ⟨result, db', hrun, haffected, hk'⟩ :=
      hk.send (e := e) none_ne_failed (serves_markProcessed_hit hr hlive hs') "mark_processed"
    refine ⟨db', ?_, hk'⟩
    rw [run_bind_ok hrun, haffected]
    rfl
  · have hmiss : ∀ r, s.get? id = some r → r.isTerminal = true := by
      intro r hr
      rw [← Bool.not_eq_false]
      exact fun hl => hlive ⟨r, hr, hl⟩
    have hserves : Serves (.markProcessed id now) s (·.affected = 0) s := serves_markProcessed_miss hmiss hs
    obtain ⟨result, db₁, hrun, haffected, hk₁⟩ := hk.send (e := e) none_ne_failed hserves "mark_processed"
    obtain ⟨db₂, hthere, hk₂⟩ := run_isThere (e := e) hk₁ id
    refine ⟨db₂, ?_, ?_⟩
    · rw [run_bind_ok hrun, haffected, if_pos rfl, run_bind_ok hthere, Outbox.Store.markProcessed]
      cases s.get? id <;> rfl
    · have hsame : (s.answer (.markProcessed id now)).2 = s := by
        cases hr : s.get? id with
        | none => rw [Outbox.Store.answer, Outbox.Store.markProcessed_missing hr]; rfl
        | some r => rw [Outbox.Store.answer, Outbox.Store.markProcessed_ended hr (hmiss r hr)]; rfl
      rw [hsame]
      exact hk₂

theorem run_lockLive (hk : db.Keeps (.open before) s) (id : EventId) :
    ∃ db', db'.Keeps (.open before) s ∧ run e (Store.lockLive id) db = (match s.get? id with
      | none => .error (.notFound id)
      | some r => .ok (if r.isTerminal then none else some r.attempts), db') := by
  obtain ⟨result, db', hrun, hrecords, hk'⟩ :=
    hk.send (e := e) (open_ne_failed before) (serves_lockForFailure id) "load_attempts"
  refine ⟨db', hk', ?_⟩
  rw [Store.lockLive, run_bind_ok hrun, hrecords]
  cases hr : s.get? id with
  | none => rfl
  | some r =>
      have hprocessed : run e (Session.ofExcept (readColumn "processed_at"
          ((timeColumn (.ofOption .time r.processedAt)).read? "processed_at"))) db' = (.ok r.processedAt, db') := by
        rw [run_ofExcept, read?_timeColumn]
        rfl
      have hdead : run e (Session.ofExcept (readColumn "dead_lettered_at"
          ((timeColumn (.ofOption .time r.deadLetteredAt)).read? "dead_lettered_at"))) db' =
            (.ok r.deadLetteredAt, db') := by
        rw [run_ofExcept, read?_timeColumn]
        rfl
      refine (run_bind_ok hprocessed).trans ((run_bind_ok hdead).trans ?_)
      by_cases hend : (r.processedAt.isSome || r.deadLetteredAt.isSome) = true
      · have hterminal : r.isTerminal = true := hend
        rw [if_pos hend]
        simp only [hterminal, if_true]
        rfl
      · have hlive : r.isTerminal = false := Bool.eq_false_iff.2 hend
        rw [if_neg hend]
        simp only [hlive, Bool.false_eq_true, if_false]
        show ((.ok (some (attemptsOf (r.attempts.toNat : Int))) : Except StoreError (Option UInt32)), db') = _
        rw [attemptsOf_toNat]

theorem yields_markFailed (hk : db.Keeps .none s) (id : EventId) (error : String) (now : Time)
    (policy : RetryPolicy) (hs' : AllStorable (s.answer (.markFailed id error now policy)).2) :
    Yields e db (Store.markFailed id error now policy) ((s.markFailed id error now policy).map (·.1))
      (s.answer (.markFailed id error now policy)).2 := by
  refine yields_logged _ ?_
  obtain ⟨db₁, hstart, hk₁⟩ := hk.start (e := e)
  obtain ⟨db₂, hk₂, hlock⟩ := run_lockLive (e := e) hk₁ id
  cases hr : s.get? id with
  | none =>
      rw [hr] at hlock
      simp only [Outbox.Store.answer, Outbox.Store.markFailed_missing hr, Outbox.Store.reply]
      refine ⟨_, ?_, answer_rollback (e := e) (.inl hk₂.transaction) hk.table⟩
      rw [run_bind_ok hstart, run_bind_error (run_orAbandon_error hlock)]
      rfl
  | some r =>
      rw [hr] at hlock
      by_cases hend : r.isTerminal = true
      · simp only [if_pos hend] at hlock
        simp only [Outbox.Store.answer, Outbox.Store.markFailed_ended hr hend, Outbox.Store.reply]
        refine ⟨_, ?_, answer_rollback (e := e) (.inl hk₂.transaction) hk.table⟩
        rw [run_bind_ok hstart, run_bind_ok (run_orAbandon_ok hlock)]
        simp only []
        rw [run_bind_ok (run_abandon db₂)]
        rfl
      · have hlive := Bool.eq_false_iff.2 hend
        simp only [if_neg hend] at hlock
        simp only [Outbox.Store.answer, Outbox.Store.markFailed_live hr hlive, Outbox.Store.reply] at hs' ⊢
        obtain ⟨result, db₃, hwrite, -, hk₃⟩ :=
          hk₂.send (e := e) (open_ne_failed _) (serves_markFailed hr hlive hs') "mark_failed"
        obtain ⟨db₄, hcommit, hk₄⟩ := hk₃.commit (e := e)
        refine ⟨db₄, ?_, hk₄⟩
        rw [run_bind_ok hstart, run_bind_ok (run_orAbandon_ok hlock)]
        simp only []
        have hput : run e (Session.orAbandon do
            let _ ← Session.send "mark_failed" (.markFailed id (r.failed error now policy).attempts (clipError error)
              (r.failed error now policy).nextAttemptAt
              (if (r.failed error now policy).nextAttemptAt.isNone then some now else none))) db₂ = (.ok (), db₃) :=
          run_orAbandon_ok (run_bind_ok hwrite)
        refine (run_bind_ok hput).trans ((run_bind_ok hcommit).trans ?_)
        rfl

theorem run_insert (hk : db.Keeps (.open before) s) (hstaged : r.IsStaged) (hfresh : s.get? r.id = none)
    (hs : AllStorable (s.put r)) :
    ∃ db', run e (insert r) db = (.ok (), db') ∧ db'.Keeps (.open before) (s.put r) := by
  obtain ⟨result, db', hanswer, -, hk'⟩ := hk.answer (e := e) (open_ne_failed before) (serves_insert hstaged hfresh hs)
  refine ⟨db', ?_, hk'⟩
  rw [insert, run_bind_ok (run_ask hanswer)]
  rfl

theorem run_insert_taken (hk : db.Keeps (.open before) s) (hstaged : r.IsStaged) {q : Row}
    (htaken : s.get? r.id = some q) (hs : AllStorable s) (hr : Storable r) :
    ∃ db', run e (insert r) db = (.error (.alreadyExists r.id), db') ∧ db'.transaction = .failed before := by
  have hanswer := hk.refuse (e := e) (open_ne_failed before) (refuses_insert hstaged htaken hs hr)
  refine ⟨{ db.fail with served := db.served + 1 }, ?_, ?_⟩
  · rw [insert, run_bind_ok (run_ask hanswer)]
    rfl
  · simp only [fail, hk.transaction]

theorem clash?_put (s : Outbox.Store) (r : Row) (rows : List Row) : (s.put r).clash? [] rows = s.clash? [r] rows := by
  refine Outbox.Store.clash?_congr fun id => ?_
  rw [Outbox.Store.get?_put]
  split
  · rename_i he
    simp [he]
  · rename_i hne
    simp [hne]

theorem run_insertAll {rows : List Row} (hk : db.Keeps (.open before) s) (hs : AllStorable s)
    (hrows : ∀ r ∈ rows, r.IsStaged ∧ Storable r) :
    match s.clash? [] rows with
    | none => ∃ db', run e (insertAll rows) db = (.ok (), db') ∧ db'.Keeps (.open before) ⟨s.rows.insertAll rows⟩
    | some id => ∃ db', run e (insertAll rows) db = (.error (.alreadyExists id), db') ∧
        db'.transaction = .failed before := by
  induction rows generalizing s db with
  | nil => exact ⟨db, rfl, hk⟩
  | cons r rows ih =>
      obtain ⟨hstaged, hr⟩ := hrows r (List.mem_cons_self ..)
      cases hget : s.get? r.id with
      | some q =>
          have hclash : s.clash? [] (r :: rows) = some r.id := by simp [Outbox.Store.clash?, hget]
          obtain ⟨db', hrun, hk'⟩ := run_insert_taken (e := e) hk hstaged hget hs hr
          rw [hclash]
          exact ⟨db', by rw [insertAll, run_bind_error hrun], hk'⟩
      | none =>
          have hclash : s.clash? [] (r :: rows) = (s.put r).clash? [] rows := by
            simp [Outbox.Store.clash?, hget, clash?_put]
          have hput := allStorable_put hs hr
          obtain ⟨db', hrun, hk'⟩ := run_insert (e := e) hk hstaged hget hput
          have hrest := ih hk' hput fun q hq => hrows q (List.mem_cons_of_mem _ hq)
          rw [hclash, insertAll, run_bind_ok hrun]
          exact hrest

theorem yields_add (hk : db.Keeps .none s) (hs : AllStorable s) (rows : List Row)
    (hrows : ∀ r ∈ rows, r.IsStaged ∧ Storable r) :
    Yields e db (Store.add rows) ((s.add rows).map fun _ => ()) (s.answer (.add rows)).2 := by
  refine yields_logged _ ?_
  cases hnil : rows.isEmpty with
  | true =>
      obtain rfl := List.isEmpty_iff.1 hnil
      exact ⟨db, rfl, hk⟩
  | false =>
      obtain ⟨db₁, hstart, hk₁⟩ := hk.start (e := e)
      have hinsert := run_insertAll (e := e) hk₁ hs hrows
      simp only [Bool.not_false, if_true]
      cases hclash : s.clash? [] rows with
      | none =>
          have hadd : s.add rows = .ok ⟨s.rows.insertAll rows⟩ := by rw [Outbox.Store.add, hclash]
          rw [hclash] at hinsert
          obtain ⟨db₂, hrun, hk₂⟩ := hinsert
          obtain ⟨db₃, hcommit, hk₃⟩ := hk₂.commit (e := e)
          simp only [Outbox.Store.answer, hadd, Outbox.Store.reply]
          refine ⟨db₃, ?_, hk₃⟩
          rw [run_bind_ok hstart, run_bind_ok (run_orAbandon_ok hrun)]
          exact hcommit
      | some id =>
          have hadd : s.add rows = .error (.alreadyExists id) := by rw [Outbox.Store.add, hclash]
          rw [hclash] at hinsert
          obtain ⟨db₂, hrun, hfailed⟩ := hinsert
          simp only [Outbox.Store.answer, hadd, Outbox.Store.reply]
          refine ⟨_, ?_, answer_rollback (e := e) (.inr hfailed) hk.table⟩
          rw [run_bind_ok hstart, run_bind_error (run_orAbandon_error hrun)]
          rfl

end Outbox.Postgres.Sql.Database
