import Outbox.Proofs.Postgres.Transaction

namespace Outbox.Postgres

variable {p : Peer} {id : EventId} {error : String} {now : Time} {policy : RetryPolicy}

theorem Transacts.congr {wasOpen : Bool} {plan : List Statement} {y z : Session Unit}
    (h : Transacts p wasOpen plan y) (hrun : ∀ line, p.run z line = p.run y line) : Transacts p wasOpen plan z :=
  fun line => hrun line ▸ h line

def finish (rows : List Row) : Session Unit := do
  insertAll rows
  let _ ← Session.send "commit_transaction" .commit

theorem asks_finish (rows : List Row) : Asks p (rows.map .insert ++ [.commit]) (finish rows) :=
  (asks_insertAll rows).bind (asks_send _ fun _ => Statement.noConfusion)

theorem transacts_add (r : Row) (rows : List Row) :
    Transacts p false ([.beginTransaction] ++ (r :: rows).map .insert ++ [.commit]) (Store.add (r :: rows)) := by
  refine (asks_finish (r :: rows)).begun.congr fun line => (p.run_logged _ _ line).trans ?_
  exact p.run_bind_congr Session.start (fun _ => p.run_orAbandon_bind _ _) line

theorem run_commit (staged : List Row) (line : List Exchange) :
    p.run (UnitOfWork.commit staged) line = p.run (Session.orAbandon (finish staged)) line := by
  have hcommit : p.run (Session.orAbandon (insertAll staged) >>= fun _ => Session.commit) line =
      p.run (Session.orAbandon (finish staged)) line := p.run_orAbandon_bind _ _ line
  rw [UnitOfWork.commit, ← bind_assoc, Peer.run_bind, hcommit]
  cases p.run (Session.orAbandon (finish staged)) line with
  | mk result line' => cases result <;> rfl

theorem transacts_commit (staged : List Row) :
    Transacts p true ([] ++ staged.map .insert ++ [.commit]) (UnitOfWork.commit staged) :=
  (asks_finish staged).orAbandon.congr (run_commit staged)

def opening (business : Option String) : List Statement := .beginTransaction :: (business.map .business).toList

theorem transacts_run (business : Option String) (staged : List Row) :
    Transacts p false (opening business ++ staged.map .insert ++ [.commit])
      (UnitOfWork.run business staged .commit) := by
  cases business with
  | none =>
      exact (asks_finish staged).begun.congr <| p.run_bind_congr Session.start fun _ => run_commit staged
  | some sql =>
      have hasks : Asks p ([.business sql] ++ (staged.map .insert ++ [.commit])) ((do
          let _ ← Session.send "business" (.business sql)) >>= fun _ => finish staged) :=
        (asks_send _ fun _ => Statement.noConfusion).bind (asks_finish staged)
      refine hasks.begun.congr <| p.run_bind_congr Session.start fun _ line => ?_
      refine Eq.trans ?_ (p.run_orAbandon_bind _ (fun _ => finish staged) line)
      exact p.run_bind_congr _ (fun _ => run_commit staged) line

def Record.IsLive (r : Record) (n : Int) : Prop :=
  r.processedAt = .null ∧ r.deadLetteredAt = .null ∧ r.attempts = .value n

def Record.HasEnded (r : Record) : Prop :=
  r.processedAt ≠ .missing ∧ r.deadLetteredAt ≠ .missing ∧ (r.processedAt ≠ .null ∨ r.deadLetteredAt ≠ .null)

theorem Record.IsLive.not_hasEnded {r : Record} {n : Int} (h : r.IsLive n) : ¬r.HasEnded :=
  fun hended => hended.2.2.elim (absurd h.1) (absurd h.2.1)

/-- What locking a row comes to, by the reply to the SELECT that locks it. -/
inductive Locks : Reply → Except StoreError (Option UInt32) → Prop
  | live {result : Result} {record : Record} {n : Int} (hhead : result.records.head? = some record)
      (hlive : record.IsLive n) : Locks (.ok result) (.ok (some (attemptsOf n)))
  | ended {result : Result} {record : Record} (hhead : result.records.head? = some record)
      (hended : record.HasEnded) : Locks (.ok result) (.ok none)
  | unread {result : Result} {error : StoreError}
      (h : ∀ record, result.records.head? = some record → (∀ n, ¬record.IsLive n) ∧ ¬record.HasEnded) :
      Locks (.ok result) (.error error)
  | refused (e : Failure) : Locks (.error e) (.error (e.toStoreError "load_attempts"))

theorem Locks.live_iff {r : Reply} {outcome : Except StoreError (Option UInt32)} (h : Locks r outcome) :
    (∃ attempts, outcome = .ok (some attempts)) ↔
      ∃ n result record, r = .ok result ∧ result.records.head? = some record ∧ record.IsLive n := by
  cases h with
  | live hhead hlive => exact iff_of_true ⟨_, rfl⟩ ⟨_, _, _, rfl, hhead, hlive⟩
  | ended hhead hended =>
      refine iff_of_false (by simp) ?_
      rintro ⟨n, _, record', ⟨⟩, hhead', hlive⟩
      cases hhead.symm.trans hhead'
      exact hlive.not_hasEnded hended
  | unread h =>
      refine iff_of_false (by simp) ?_
      rintro ⟨n, _, record, ⟨⟩, hhead, hlive⟩
      exact (h record hhead).1 n hlive
  | refused e => exact iff_of_false (by simp) (by simp)

theorem Locks.ended_iff {r : Reply} {outcome : Except StoreError (Option UInt32)} (h : Locks r outcome) :
    outcome = .ok none ↔ ∃ result record, r = .ok result ∧ result.records.head? = some record ∧ record.HasEnded := by
  cases h with
  | live hhead hlive =>
      refine iff_of_false (by simp) ?_
      rintro ⟨_, record', ⟨⟩, hhead', hended⟩
      cases hhead.symm.trans hhead'
      exact hlive.not_hasEnded hended
  | ended hhead hended => exact iff_of_true rfl ⟨_, _, rfl, hhead, hended⟩
  | unread h =>
      refine iff_of_false (by simp) ?_
      rintro ⟨_, record, ⟨⟩, hhead, hended⟩
      exact (h record hhead).2 hended
  | refused e => exact iff_of_false (by simp) (by simp)

theorem locks_unread {result : Result} {record : Record} (hhead : result.records.head? = some record)
    (hlive : ∀ n, ¬record.IsLive n) (hended : ¬record.HasEnded) (error : StoreError) :
    Locks (.ok result) (.error error) :=
  .unread fun record' hhead' => by
    cases hhead.symm.trans hhead'
    exact ⟨hlive, hended⟩

theorem run_lockLive (id : EventId) (line : List Exchange) :
    ∃ outcome, Locks (p line (.lockForFailure id)) outcome ∧ p.run (Store.lockLive id) line =
      (outcome, line ++ [.asked (.lockForFailure id) (p line (.lockForFailure id))]) := by
  rw [Store.lockLive, Peer.run_bind]
  cases hreply : p line (.lockForFailure id) with
  | error e => exact ⟨_, .refused e, by rw [Peer.run_send_error _ hreply]⟩
  | ok result =>
      rw [Peer.run_send_ok _ hreply]
      simp only
      cases hhead : result.records.head? with
      | none =>
          have hunread : Locks (.ok result) (.error (.notFound id)) := .unread (by simp [hhead])
          exact ⟨_, hunread, rfl⟩
      | some record =>
          dsimp only
          -- The columns are read in this order, and the first that cannot be read ends it.
          cases hp : record.processedAt with
          | missing =>
              exact ⟨_, locks_unread hhead (by simp [Record.IsLive, hp]) (by simp [Record.HasEnded, hp]) _, rfl⟩
          | value t =>
              cases hd : record.deadLetteredAt with
              | missing =>
                  exact ⟨_, locks_unread hhead (by simp [Record.IsLive, hp]) (by simp [Record.HasEnded, hd]) _, rfl⟩
              | null | value => exact ⟨_, .ended hhead (by simp [Record.HasEnded, hp, hd]), rfl⟩
          | null =>
              cases hd : record.deadLetteredAt with
              | missing =>
                  exact ⟨_, locks_unread hhead (by simp [Record.IsLive, hd]) (by simp [Record.HasEnded, hd]) _, rfl⟩
              | value t => exact ⟨_, .ended hhead (by simp [Record.HasEnded, hp, hd]), rfl⟩
              | null =>
                  cases ha : record.attempts with
                  | missing | null =>
                      have hended : ¬record.HasEnded := by simp [Record.HasEnded, hp, hd]
                      exact ⟨_, locks_unread hhead (by simp [Record.IsLive, ha]) hended _, rfl⟩
                  | value n => exact ⟨_, .live hhead ⟨hp, hd, ha⟩, rfl⟩

def failureUpdate (id : EventId) (error : String) (now : Time) (policy : RetryPolicy) (n : Int) : Statement :=
  let attempts := Row.countAttempt (attemptsOf n)
  let next := policy.nextAttempt attempts now
  .markFailed id attempts (clipError error) next (if next.isNone then some now else none)

/-- What is asked to record a failure: no more than the SELECT, where that locks no row that has not ended. -/
def failurePlan (id : EventId) (error : String) (now : Time) (policy : RetryPolicy) : Option Int → List Statement
  | none => [.beginTransaction, .lockForFailure id]
  | some n => [.beginTransaction, .lockForFailure id, failureUpdate id error now policy n, .commit]

def Course.Locked {α : Type} (c : Course α) (id : EventId) (P : Record → Prop) : Prop :=
  ∃ result record, (.lockForFailure id, .ok result) ∈ c.asked ∧ result.records.head? = some record ∧ P record

/-- A failure that is recorded in a transaction. -/
structure Course.Marks (c : Course FailureOutcome) (id : EventId) (error : String) (now : Time)
    (policy : RetryPolicy) : Prop where
  inTurn : ∃ locked refusal, InTurn (failurePlan id error now policy locked) c.asked refusal ∧
    (∀ n, locked = some n ↔ c.Locked id (·.IsLive n)) ∧ ∀ e, refusal = some e → c.result = .error e
  updated : ∀ attempts text next ended r, (.markFailed id attempts text next ended, r) ∈ c.asked →
    ∃ n, c.Locked id (·.IsLive n) ∧ .markFailed id attempts text next ended = failureUpdate id error now policy n
  commit_asked_iff : (∃ r, (.commit, r) ∈ c.asked) ↔
    (∃ attempts text next ended r, (.markFailed id attempts text next ended, r) ∈ c.asked) ∧
      ∀ x ∈ c.asked, x.1 ≠ .commit → x.2.isOk
  ok_iff : c.result.isOk ↔ (∃ result, (.commit, .ok result) ∈ c.asked) ∨ c.result = .ok .unchanged
  unchanged_iff : c.result = .ok .unchanged ↔ c.Locked id Record.HasEnded

variable {c : Course FailureOutcome} {refusal : Option StoreError}

section Unlocked

variable (hturn : InTurn [.beginTransaction, .lockForFailure id] c.asked refusal)

include hturn

theorem Course.marks_of_unlocked (hlive : ∀ n, ¬c.Locked id (·.IsLive n))
    (hrefusal : ∀ e, refusal = some e → c.result = .error e)
    (hunchanged : c.result = .ok .unchanged ↔ c.Locked id Record.HasEnded)
    (hok : c.result.isOk → c.result = .ok .unchanged) : c.Marks id error now policy where
  inTurn := ⟨none, refusal, hturn, fun n => iff_of_false nofun (hlive n), hrefusal⟩
  updated _ _ _ _ _ hmem := absurd (hturn.mem_plan hmem) (by simp)
  commit_asked_iff := by
    refine iff_of_false (fun ⟨_, hmem⟩ => absurd (hturn.mem_plan hmem) (by simp)) ?_
    exact fun ⟨⟨_, _, _, _, _, hmem⟩, _⟩ => absurd (hturn.mem_plan hmem) (by simp)
  ok_iff := by
    refine ⟨fun h => .inr (hok h), ?_⟩
    rintro (⟨_, hmem⟩ | heq)
    · exact absurd (hturn.mem_plan hmem) (by simp)
    · rw [heq]; rfl
  unchanged_iff := hunchanged

theorem Course.isOver_of_unlocked (hleft : c.left = [] ∨ c.left = [.rollback])
    (hbegun : .rollback ∈ c.left ↔ ∃ result, (.beginTransaction, .ok result) ∈ c.asked) : c.IsOver false where
  commit_last before r after hasked := by
    have hmem : (.commit, r) ∈ c.asked := hasked ▸ List.mem_append_right before List.mem_cons_self
    exact absurd (hturn.mem_plan hmem) (by simp)
  left_eq := hleft
  rollback_iff := by
    rw [hbegun]
    refine ⟨fun h => ⟨.inr h, fun _ hmem => absurd (hturn.mem_plan hmem) (by simp)⟩, fun h => ?_⟩
    simpa using h.1
  uncommitted _ _ _ hmem := absurd (hturn.mem_plan hmem) (by simp)

end Unlocked

def failureTold (now : Time) (policy : RetryPolicy) (n : Int) : FailureOutcome :=
  Row.failureOutcome (Row.countAttempt (attemptsOf n)) (policy.nextAttempt (Row.countAttempt (attemptsOf n)) now)

theorem failureTold_ne (now : Time) (policy : RetryPolicy) (n : Int) : failureTold now policy n ≠ .unchanged := by
  unfold failureTold
  cases policy.nextAttempt (Row.countAttempt (attemptsOf n)) now <;> exact nofun

theorem commit_not_mem_work {n : Int} :
    Statement.commit ∉ [.beginTransaction, .lockForFailure id, failureUpdate id error now policy n] := by
  simp [failureUpdate]

section Locked

variable {begun locked : Result} {record : Record} {n : Int} {rest : List (Statement × Reply)}
  (hrest : InTurn [failureUpdate id error now policy n, .commit] rest refusal)
  (hhead : locked.records.head? = some record) (hlive : record.IsLive n)
  (hasked : c.asked = (.beginTransaction, .ok begun) :: (.lockForFailure id, .ok locked) :: rest)

include hrest hasked

theorem inTurn_locked :
    InTurn ([.beginTransaction, .lockForFailure id, failureUpdate id error now policy n] ++ [.commit]) c.asked
      refusal := by
  rw [hasked]
  exact .served _ begun (.served _ locked hrest)

include hhead in
theorem Course.locked_iff (P : Record → Prop) : c.Locked id P ↔ P record := by
  constructor
  · rintro ⟨result, record', hmem, hhead', hP⟩
    rw [hasked] at hmem
    have hnot : (.lockForFailure id, .ok result) ∉ rest := fun h =>
      absurd (hrest.mem_plan h) (by simp [failureUpdate])
    obtain rfl : result = locked := by simpa [hnot] using hmem
    cases hhead.symm.trans hhead'
    exact hP
  · exact fun hP => ⟨locked, record, by simp [hasked], hhead, hP⟩

variable (hresult : c.result = (verdict refusal).map fun _ => failureTold now policy n)

include hresult

include hhead hlive in
theorem Course.marks_of_locked : c.Marks id error now policy := by
  have hturn := inTurn_locked hrest hasked
  have hlocked := Course.locked_iff hrest hhead hasked
  have hwritten : c.result ≠ .ok .unchanged := by
    rw [hresult]
    cases refusal with
    | none => exact fun heq => failureTold_ne now policy n (Except.ok.inj heq)
    | some e => exact nofun
  refine ⟨⟨some n, refusal, hturn, fun m => ?_, ?_⟩, ?_, ?_, ?_, ?_⟩
  · rw [hlocked, Option.some_inj]
    exact ⟨fun heq => heq ▸ hlive, fun hm => Column.value.inj (hlive.2.2.symm.trans hm.2.2)⟩
  · rintro e rfl
    exact hresult
  · intro attempts text next ended r hmem
    refine ⟨n, (hlocked _).2 hlive, ?_⟩
    simpa using hturn.mem_plan hmem
  · have hupdate : ∃ attempts text next ended r, (Statement.markFailed id attempts text next ended, r) ∈ c.asked := by
      obtain ⟨r, hr⟩ := hrest.exists_head
      exact ⟨_, _, _, _, r, hasked ▸ List.mem_cons_of_mem _ (List.mem_cons_of_mem _ hr)⟩
    rw [hturn.commit_asked_iff commit_not_mem_work, and_iff_right hupdate]
  · rw [hturn.acknowledged_iff commit_not_mem_work, or_iff_left hwritten, hresult]
    cases refusal <;> simp [verdict, Except.map, Except.isOk, Except.toBool]
  · exact iff_of_false hwritten fun hended => hlive.not_hasEnded ((hlocked _).1 hended)

theorem Course.isOver_of_locked (hleft : c.left = [] ∨ c.left = [.rollback])
    (hrollback : .rollback ∈ c.left ↔ refusal ≠ none) : c.IsOver false := by
  refine (inTurn_locked hrest hasked).isOver commit_not_mem_work hleft (hrollback.trans ?_) ?_
  · exact (and_iff_right (.inr ⟨begun, by simp [hasked]⟩)).symm
  · rintro e he rfl
    simp [hresult, verdict, Except.map] at he

end Locked

def writeFailure (id : EventId) (error : String) (now : Time) (policy : RetryPolicy) (n : Int) :
    Session FailureOutcome := do
  Session.orAbandon do let _ ← Session.send "mark_failed" (failureUpdate id error now policy n)
  Session.commit
  return failureTold now policy n

theorem transacts_update (p : Peer) (id : EventId) (error : String) (now : Time) (policy : RetryPolicy) (n : Int) :
    Transacts p true [failureUpdate id error now policy n, .commit] (do
      Session.orAbandon do let _ ← Session.send "mark_failed" (failureUpdate id error now policy n)
      Session.commit) := by
  have hasks : Asks p ([failureUpdate id error now policy n] ++ [.commit]) ((do
      let _ ← Session.send "mark_failed" (failureUpdate id error now policy n)) >>= fun _ => do
        let _ ← Session.send "commit_transaction" .commit) :=
    (asks_send _ fun _ => Statement.noConfusion).bind (asks_send _ fun _ => Statement.noConfusion)
  exact hasks.orAbandon.congr (p.run_orAbandon_bind _ _)

theorem exists_written (p : Peer) (id : EventId) (error : String) (now : Time) (policy : RetryPolicy) (n : Int)
    (line : List Exchange) :
    ∃ asked left refusal, InTurn [failureUpdate id error now policy n, .commit] asked refusal ∧
      p.run (writeFailure id error now policy n) line =
        Course.after ⟨asked, left, (verdict refusal).map fun _ => failureTold now policy n⟩ line ∧
      (left = [] ∨ left = [.rollback]) ∧ (.rollback ∈ left ↔ refusal ≠ none) := by
  obtain ⟨asked, left, refusal, hturn, hrun, hleft, hrollback⟩ :=
    transacts_update p id error now policy n line
  refine ⟨asked, left, refusal, hturn, ?_, hleft, hrollback.trans (by simp)⟩
  rw [writeFailure, ← bind_assoc, Peer.run_bind, hrun]
  cases refusal <;> rfl

def Course.givenUp (id : EventId) (begun : Result) (r : Reply) (result : Except StoreError FailureOutcome) :
    Course FailureOutcome :=
  ⟨[(.beginTransaction, .ok begun), (.lockForFailure id, r)], [.rollback], result⟩

theorem Course.locked_givenUp {begun : Result} {r : Reply} {result : Except StoreError FailureOutcome}
    (P : Record → Prop) : (Course.givenUp id begun r result).Locked id P ↔
      ∃ locked record, r = .ok locked ∧ locked.records.head? = some record ∧ P record := by
  simp [Course.Locked, Course.givenUp, eq_comm]

theorem Locks.marks (id : EventId) (error : String) (now : Time) (policy : RetryPolicy) (begun : Result) {r : Reply}
    {outcome : Except StoreError (Option UInt32)} (hlocks : Locks r outcome)
    (hnone : ∀ attempts, outcome ≠ .ok (some attempts)) :
    (Course.givenUp id begun r (outcome.map fun _ => .unchanged)).Marks id error now policy ∧
      (Course.givenUp id begun r (outcome.map fun _ => .unchanged)).IsOver false := by
  obtain ⟨refusal, hturn, hrefusal⟩ : ∃ refusal, InTurn [.beginTransaction, .lockForFailure id]
      [(.beginTransaction, .ok begun), (.lockForFailure id, r)] refusal ∧
      ∀ e, refusal = some e → outcome = .error e := by
    cases hlocks with
    | refused e =>
        have hblames : Blames (.lockForFailure id) e (e.toStoreError "load_attempts") := .failed _ (by simp)
        exact ⟨_, .served _ begun (.refused [] hblames), by simp⟩
    | live | ended | unread => exact ⟨none, .served _ begun (.served _ _ .done), by simp⟩
  refine ⟨Course.marks_of_unlocked hturn ?_ ?_ ?_ ?_, Course.isOver_of_unlocked hturn (.inr rfl) (by
    simp [Course.givenUp])⟩
  · intro n hlive
    obtain ⟨locked, record, hr, hhead, hlive⟩ := (Course.locked_givenUp _).1 hlive
    obtain ⟨attempts, heq⟩ := hlocks.live_iff.2 ⟨n, locked, record, hr, hhead, hlive⟩
    exact hnone attempts heq
  · intro e he
    rw [hrefusal e he]
    rfl
  · rw [Course.locked_givenUp, ← hlocks.ended_iff]
    rcases outcome with e | _ | attempts
    · simp [Course.givenUp, Except.map]
    · simp [Course.givenUp, Except.map]
    · exact absurd rfl (hnone attempts)
  · rcases outcome with e | _ | attempts
    · exact nofun
    · exact fun _ => rfl
    · exact absurd rfl (hnone attempts)

theorem exists_marks (p : Peer) (id : EventId) (error : String) (now : Time) (policy : RetryPolicy)
    (line : List Exchange) :
    ∃ c : Course FailureOutcome, c.Marks id error now policy ∧ c.IsOver false ∧
      p.run (Store.markFailed id error now policy) line = c.after line := by
  rw [Store.markFailed, Peer.run_logged, Peer.run_bind]
  obtain ⟨asked, refusal, hturn, hstart⟩ := asks_start (p := p) line
  rw [hstart]
  cases hturn with
  | refused _ hblames =>
      have hturn : InTurn [.beginTransaction, .lockForFailure id] _ _ := .refused _ hblames
      refine ⟨⟨_, [], _⟩, Course.marks_of_unlocked hturn ?_ ?_ ?_ ?_, Course.isOver_of_unlocked hturn ?_ ?_, rfl⟩
      all_goals simp [Course.Locked, Except.isOk, Except.toBool]
  | served _ begun hturn =>
      cases hturn
      rw [after_asked]
      obtain ⟨outcome, hlocks, hlock⟩ := run_lockLive (p := p) id (line ++ [.asked .beginTransaction (.ok begun)])
      simp only [verdict]
      rw [Peer.run_bind, Peer.run_orAbandon, hlock]
      -- With the row locked, the transaction is given up for one of two reasons or goes on to write.
      generalize p _ (.lockForFailure id) = r at hlocks ⊢
      rcases outcome with e | _ | attempts
      · obtain ⟨hmarks, hover⟩ := hlocks.marks id error now policy begun (by simp)
        exact ⟨_, hmarks, hover, by simp [Course.after, Course.givenUp, Except.map]⟩
      · obtain ⟨hmarks, hover⟩ := hlocks.marks id error now policy begun (by simp)
        refine ⟨_, hmarks, hover, ?_⟩
        dsimp only
        rw [Peer.run_bind, Peer.run_abandon]
        simp [Course.after, Course.givenUp, Except.map, Peer.run_pure]
      · cases hlocks with
        | @live locked record n hhead hlive =>
            obtain ⟨rest, left, refusal, hrest, hrun, hleft, hrollback⟩ := exists_written p id error now policy n
              (line ++ [.asked .beginTransaction (.ok begun)] ++ [.asked (.lockForFailure id) (.ok locked)])
            let c : Course FailureOutcome :=
              ⟨(.beginTransaction, .ok begun) :: (.lockForFailure id, .ok locked) :: rest, left,
                (verdict refusal).map fun _ => failureTold now policy n⟩
            refine ⟨c, Course.marks_of_locked hrest hhead hlive rfl rfl,
              Course.isOver_of_locked hrest rfl rfl hleft hrollback, hrun.trans ?_⟩
            simp [c, Course.after]

/-- Whatever a server replies: rows are inserted one by one until one is refused, a failure is written to a row that
was locked and found not to have ended, and COMMIT is asked for when all that goes before it was served, and last.
Each operation tells of success if COMMIT was acknowledged or nothing had to be written, and of an error otherwise. -/
theorem transactions_disciplined (p : Peer) (line : List Exchange) :
    p.run (Store.add []) line = (.ok (), line) ∧
      (∀ r rows, ∃ c : Course Unit, c.Inserts [.beginTransaction] (r :: rows) ∧ c.IsOver false ∧
        p.run (Store.add (r :: rows)) line = c.after line) ∧
      (∀ staged, ∃ c : Course Unit, c.Inserts [] staged ∧ c.IsOver true ∧
        p.run (UnitOfWork.commit staged) line = c.after line) ∧
      (∀ business staged, ∃ c : Course Unit, c.Inserts (opening business) staged ∧ c.IsOver false ∧
        p.run (UnitOfWork.run business staged .commit) line = c.after line) ∧
      ∀ id error now policy, ∃ c : Course FailureOutcome, c.Marks id error now policy ∧ c.IsOver false ∧
        p.run (Store.markFailed id error now policy) line = c.after line := by
  refine ⟨rfl, fun r rows => ?_, fun staged => ?_, fun business staged => ?_, fun id error now policy => ?_⟩
  · exact (transacts_add r rows).inserts (by simp) line
  · exact (transacts_commit staged).inserts (by simp) line
  · exact (transacts_run business staged).inserts (by cases business <;> simp [opening]) line
  · exact exists_marks p id error now policy line

end Outbox.Postgres
