import Mathlib.Data.List.Infix
import Outbox.Proofs.Postgres.Claiming
import Outbox.Proofs.Store.Soundness

namespace Outbox

namespace Postgres

open Outbox.Store (Operation)
open Sql

def converse (strategy : ClaimStrategy) : Operation → Store.Claim Outbox.Store.Reply
  | .add rows => do
    .ofSession (Store.add rows)
    return .done
  | .claim take worker lease now => return .rows (← Store.claim strategy take worker lease now)
  | .markProcessed id now => do
    .ofSession (Store.markProcessed id now)
    return .done
  | .markFailed id error now policy => return .failed (← .ofSession (Store.markFailed id error now policy))
  | .get id => return .row (← .ofSession (Store.get? id))
  | .deadLetters limit => return .rows (← .ofSession (Store.deadLetters limit))
  | .requeue id => return .row (some (← .ofSession (Store.requeue id)))
  | .purge before => return .count (← .ofSession (Store.purge before))
  | .stats now => return .stats (← .ofSession (Store.stats now))

def told : Except Interruption Outbox.Store.Reply → Except Abort Outbox.Store.Reply
  | .ok reply => .ok reply
  | .error (.refused e) => .ok (.refused e)
  | .error (.aborted a) => .error a

namespace Sql.Database

def serve (e : Engine) (strategy : ClaimStrategy) (op : Operation) (db : Database) :
    Except Abort Outbox.Store.Reply × Database :=
  let (result, db) := run e (converse strategy op) db
  (told result, db)

def serveAll (e : Engine) (strategy : ClaimStrategy) :
    List Operation → Database → List (Except Abort Outbox.Store.Reply) × Database
  | [], db => ([], db)
  | op :: ops, db =>
    let (reply, db) := db.serve e strategy op
    let (replies, db) := serveAll e strategy ops db
    (reply :: replies, db)

end Sql.Database

/-- An operation that adds fresh rows, with texts no longer than their columns, and claims no more rows one by
one than there is memory for. -/
def IsServable (strategy : ClaimStrategy) : Operation → Prop
  | .add rows => ∀ r ∈ rows, r.IsStaged ∧ TextsFit r
  | .claim take worker _ _ =>
    worker.length ≤ 128 ∧ (strategy = .perRow → take * Store.rowBytes ≤ Store.memoryLimit)
  | _ => True

/-- A store with no more rows than the server can count, each with no more attempts than its column can say. -/
structure IsCountable (s : Outbox.Store) : Prop where
  size : s.rows.size ≤ largestBigint
  attempts : ∀ r ∈ s.rows.entries, r.attempts.toNat ≤ largestInteger

instance (s : Outbox.Store) : Decidable (IsCountable s) :=
  decidable_of_iff (s.rows.size ≤ largestBigint ∧ ∀ r ∈ s.rows.entries, r.attempts.toNat ≤ largestInteger)
    ⟨fun ⟨hsize, hattempts⟩ => ⟨hsize, hattempts⟩, fun h => ⟨h.size, h.attempts⟩⟩

variable {s : Outbox.Store} {op : Operation} {strategy : ClaimStrategy} {e : Engine} {db : Database}

theorem textsFit_of_change {id : EventId} {x : Option Row} {q : Row} (h : Outbox.Store.Change id op x (some q))
    (hx : ∀ r, x = some r → TextsFit r) (hop : IsServable strategy op) : TextsFit q := by
  cases h with
  | same => exact hx q rfl
  | added rows _ hr => exact (hop q hr).2
  | leased take worker lease now expiry r =>
      refine { hx r rfl with lockedBy := ?_ }
      rintro _ ⟨⟩
      exact hop.1
  | processed now r => exact { hx r rfl with error := nofun, lockedBy := nofun }
  | failed error now policy r =>
      refine { hx r rfl with error := ?_, lockedBy := nofun }
      rintro _ ⟨⟩
      exact length_clipError error
  | requeued r => exact { hx r rfl with lockedBy := nofun }

def AllFit (s : Outbox.Store) : Prop := ∀ id r, s.get? id = some r → TextsFit r

theorem allFit_answer (hs : AllFit s) (hop : IsServable strategy op) : AllFit (s.answer op).2 := by
  intro id q hq
  have hc := Outbox.Store.change_answer s op id
  rw [hq] at hc
  exact textsFit_of_change hc (hs id) hop

theorem allStorable (hfit : AllFit s) (hsound : s.IsSound) (hcount : IsCountable s) : AllStorable s := by
  intro r hr
  have hget := Outbox.Store.get?_of_mem hr
  exact { hfit _ _ hget with
    attempts := hcount.attempts r hr
    one_end := (hsound _ _ hget).one_end }

theorem storable_of_staged {r : Row} (hstaged : r.IsStaged) (hfit : TextsFit r) : Storable r where
  toTextsFit := hfit
  attempts := by
    rw [← hstaged]
    exact Nat.zero_le _
  one_end := hstaged.isSound.one_end

namespace Sql.Database

theorem serve_of_run {α : Type} {x : Store.Claim α} {f : α → Outbox.Store.Reply} {result : Except StoreError α}
    {db' : Database} (hop : converse strategy op = x >>= fun a => pure (f a))
    (hrun : run e x db = (result.mapError .refused, db')) :
    db.serve e strategy op = (.ok (.ofResult f result), db') := by
  rw [serve, hop]
  cases result with
  | ok a => rw [run_bind_ok hrun]; rfl
  | error e => rw [run_bind_error hrun]; rfl

theorem serve_of_yields {α : Type} {y : Session α} {f : α → Outbox.Store.Reply} {result : Except StoreError α}
    (hop : converse strategy op = Store.Claim.ofSession y >>= fun a => pure (f a))
    (h : Yields e db y result (s.answer op).2) (hreply : (s.answer op).1 = .ofResult f result) :
    ∃ db', db.serve e strategy op = (.ok (s.answer op).1, db') ∧ db'.Keeps .none (s.answer op).2 := by
  obtain ⟨db', hrun, hk⟩ := h
  have hclaim : run e (Store.Claim.ofSession y) db = (result.mapError .refused, db') := by
    rw [Store.Claim.ofSession, run_adapt, hrun]
  exact ⟨db', by rw [serve_of_run hop hclaim, hreply], hk⟩

theorem serve_answer (hk : db.Keeps .none s) (hs : AllStorable s) (hs' : AllStorable (s.answer op).2)
    (hsize : s.rows.size ≤ largestBigint) (hop : IsServable strategy op) :
    ∃ db', db.serve e strategy op = (.ok (s.answer op).1, db') ∧ db'.Keeps .none (s.answer op).2 := by
  cases op with
  | add rows =>
      have hrows : ∀ r ∈ rows, r.IsStaged ∧ Storable r := fun r hr =>
        ⟨(hop r hr).1, storable_of_staged (hop r hr).1 (hop r hr).2⟩
      refine serve_of_yields (f := fun _ => .done) rfl (yields_add hk hs rows hrows) ?_
      simp only [Outbox.Store.answer]
      cases s.add rows <;> rfl
  | claim take worker lease now =>
      obtain ⟨hworker, hmemory⟩ := hop
      obtain ⟨db', hrun, hk'⟩ := run_claim strategy hk hs hworker hsize hmemory lease
      refine ⟨db', (serve_of_run (f := .rows) rfl hrun).trans ?_, hk'⟩
      simp only [Outbox.Store.answer]
      cases s.claim take worker lease now <;> rfl
  | markProcessed id now =>
      refine serve_of_yields (f := fun _ => .done) rfl (yields_markProcessed hk hs id now hs') ?_
      simp only [Outbox.Store.answer]
      cases s.markProcessed id now <;> rfl
  | markFailed id error now policy =>
      refine serve_of_yields (f := .failed) rfl (yields_markFailed hk id error now policy hs') ?_
      simp only [Outbox.Store.answer]
      cases s.markFailed id error now policy <;> rfl
  | get id => exact serve_of_yields (f := .row) rfl (yields_get hk id) rfl
  | deadLetters limit =>
      exact serve_of_yields (f := .rows) rfl (yields_deadLetters hk hsize limit) rfl
  | requeue id =>
      refine serve_of_yields (f := fun r => .row (some r)) rfl (yields_requeue hk hs id hs') ?_
      simp only [Outbox.Store.answer]
      cases s.requeue id <;> rfl
  | purge before => exact serve_of_yields (f := .count) rfl (yields_purge hk before) rfl
  | stats now =>
      exact serve_of_yields (f := .stats) rfl
        (yields_stats hk (fun r hr => (hs r hr).one_end) now) rfl

theorem serveAll_replies (ops : List Operation) (hk : db.Keeps .none s) (hfit : AllFit s) (hsound : s.IsSound)
    (hops : ∀ op ∈ ops, IsServable strategy op) (hcount : ∀ past, past <+: ops → IsCountable (s.after past)) :
    ∃ db', db.serveAll e strategy ops = ((s.replies ops).map .ok, db') ∧ db'.Keeps .none (s.after ops) := by
  induction ops generalizing s db with
  | nil => exact ⟨db, rfl, hk⟩
  | cons op ops ih =>
      have hop := hops op (List.mem_cons_self ..)
      have hfit' := allFit_answer hfit hop
      have hsound' : (s.answer op).2.IsSound := by
        refine Outbox.Store.isSound_answer hsound ?_
        rintro rows rfl r hr
        exact (hop r hr).1
      have hcount₀ : IsCountable s := hcount [] (List.nil_prefix ..)
      have hcount' (past : List Operation) (h : past <+: ops) : IsCountable ((s.answer op).2.after past) :=
        hcount (op :: past) (List.cons_prefix_cons.2 ⟨rfl, h⟩)
      obtain ⟨db₁, hserve, hk₁⟩ := serve_answer (e := e) hk (allStorable hfit hsound hcount₀)
        (allStorable hfit' hsound' (hcount' [] (List.nil_prefix ..))) hcount₀.size hop
      obtain ⟨db₂, hrest, hk₂⟩ := ih hk₁ hfit' hsound' (fun op h => hops op (List.mem_cons_of_mem _ h)) hcount'
      refine ⟨db₂, ?_, hk₂⟩
      rw [serveAll, hserve]
      simp only [hrest, Outbox.Store.replies, List.map_cons]

end Sql.Database

/-- However rows are claimed, and in whatever order the server comes upon them, each operation of a run is told
what the store in memory tells it, and at the end both hold the same rows. -/
theorem stores_agree (e : Engine) (strategy : ClaimStrategy) (ops : List Operation)
    (hops : ∀ op ∈ ops, IsServable strategy op)
    (hcount : ∀ past, past <+: ops → IsCountable (Outbox.Store.empty.after past)) :
    let run := Sql.Database.empty.serveAll e strategy ops
    run.1 = (Outbox.Store.empty.replies ops).map .ok ∧ run.2.transaction = .none ∧
      run.2.table.Perm ((Outbox.Store.empty.after ops).rows.entries.map ofRow) := by
  intro run
  have hempty : Sql.Database.empty.Keeps .none Outbox.Store.empty := ⟨rfl, mirrors_empty⟩
  have hfit : AllFit Outbox.Store.empty := by
    intro id r h
    simp at h
  obtain ⟨db, hrun, hk⟩ := Sql.Database.serveAll_replies (e := e) ops hempty hfit Outbox.Store.isSound_empty hops hcount
  rw [show run = _ from hrun]
  exact ⟨rfl, hk.transaction, hk.table⟩

theorem textsFit_sample (n : Nat) : TextsFit (Row.sample n) where
  eventType := by
    show "accounts.account.created".length ≤ 512
    decide
  correlationId := nofun
  aggregateId := nofun
  key := nofun
  error := nofun
  lockedBy := nofun

/-- A server that comes upon the last rows first, and rows that take every way through it. -/
theorem stores_agree_reversed :
    let e : Engine := ⟨fun _ table => table.reverse, fun _ table => table.reverse_perm, fun _ => .epoch⟩
    let early := Row.sample 7
    let late := Row.sample 8
    let leased := early.leasedTo "worker" (Time.epoch.later 3)
    let failed := early.failed "down" .epoch .once
    let ops := [Operation.add [early, late], .add [Row.sample 9, late], .markProcessed late.id .epoch,
      .claim 5 "worker" .zero .epoch, .claim 5 "worker" (.ofSeconds 3) .epoch,
      .markFailed early.id "down" .epoch .once, .markFailed early.id "again" .epoch .standard, .deadLetters 3,
      .requeue early.id, .requeue early.id, .get late.id, .markProcessed ⟨.ofNat 9⟩ .epoch,
      .purge (Time.epoch.later 1), .stats .epoch]
    let replies := [.done, .refused (.alreadyExists late.id), .done, .refused (.invalidLease .zero), .rows [leased],
      .failed (.deadLettered 1), .failed .unchanged, .rows [failed], .row (some failed.requeued),
      .refused (.notFound early.id), .row (some (late.processed .epoch)), .refused (.notFound ⟨.ofNat 9⟩), .count 1,
      .stats ⟨1, 0, 0, 0, 0⟩]
    (∀ op ∈ ops, IsServable .perRow op ∧ IsServable .setBased op) ∧
      (∀ past, past <+: ops → IsCountable (Outbox.Store.empty.after past)) ∧
      (Sql.Database.empty.serveAll e .perRow ops).1 = replies.map .ok ∧
      (Sql.Database.empty.serveAll e .setBased ops).1 = replies.map .ok ∧
      (Sql.Database.empty.serveAll e .perRow ops).2.table = [ofRow failed.requeued] ∧
      (Sql.Database.empty.serveAll e .setBased ops).2.table = [ofRow failed.requeued] := by
  intro e early late leased failed ops replies
  have hops (strategy : ClaimStrategy) : ∀ op ∈ ops, IsServable strategy op := by
    have hstaged (n : Nat) : (Row.sample n).IsStaged := rfl
    have hworker : "worker".length ≤ 128 := by decide
    have hmemory : 5 * Store.rowBytes ≤ Store.memoryLimit := by decide
    simp [ops, IsServable, early, late, hstaged, textsFit_sample, hworker, hmemory]
  have hcount : ∀ past, past <+: ops → IsCountable (Outbox.Store.empty.after past) := by
    have hinits : ∀ past ∈ ops.inits, IsCountable (Outbox.Store.empty.after past) := by decide +kernel
    exact fun past h => hinits past ((List.mem_inits ..).2 h)
  have hreplies : Outbox.Store.empty.replies ops = replies := by decide +kernel
  have hrows : (Outbox.Store.empty.after ops).rows.entries = [failed.requeued] := by decide +kernel
  have heach := stores_agree e .perRow ops (hops .perRow) hcount
  have hbatch := stores_agree e .setBased ops (hops .setBased) hcount
  rw [hreplies, hrows] at heach hbatch
  exact ⟨fun op h => ⟨hops .perRow op h, hops .setBased op h⟩, hcount, heach.1, hbatch.1,
    List.perm_singleton.1 heach.2.2, List.perm_singleton.1 hbatch.2.2⟩

end Postgres

end Outbox
