import Outbox.Proofs.Store.Ledger
import Outbox.Proofs.Store.Soundness

namespace Outbox.Store

open scoped List

/-- A requeue of the row of an id that was given up. -/
def Requeues (id : EventId) (s : Store) : Operation → Bool
  | .requeue i => i = id && (s.get? i).any (·.isDeadLettered)
  | _ => false

/-- A failure of the row of an id before its end. -/
def Fails (id : EventId) (s : Store) : Operation → Bool
  | .markFailed i .. => i = id && (s.get? i).any (!·.isTerminal)
  | _ => false

/-- The attempts that the row of an id has had after a run, if it had `n` before: a failure is one more,
and a requeue starts them over. -/
def counted (id : EventId) : Nat → Store → List Operation → Nat
  | n, _, [] => n
  | n, s, op :: ops =>
    counted id (if Requeues id s op then 0 else if Fails id s op then n + 1 else n) (s.answer op).2 ops

def Operation.target? : Operation → Option EventId
  | .markProcessed id _ | .markFailed id .. | .requeue id => some id
  | _ => none

variable {s : Store} {r q : Row} {id : EventId} {op : Operation} {ops : List Operation}

theorem get?_markFailed {error : String} {now : Time} {policy : RetryPolicy} (hr : s.get? id = some r)
    (hlive : r.isTerminal = false) :
    (s.answer (.markFailed id error now policy)).2.get? id = some (r.failed error now policy) := by
  have hid : (r.failed error now policy).id = id := (id_of_get? hr : r.id = id)
  simp [answer, reply, markFailed, hr, hlive, hid]

theorem get?_requeue (hr : s.get? id = some r) (hdead : r.isDeadLettered = true) :
    (s.answer (.requeue id)).2.get? id = some r.requeued := by
  have hid : r.requeued.id = id := (id_of_get? hr : r.id = id)
  simp [answer, reply, requeue, hr, hdead, hid]

theorem attempts_answer (hr : s.get? id = some r) (hq : (s.answer op).2.get? id = some q) (hsound : r.IsSound) :
    q.attempts.toNat =
      if Requeues id s op then 0 else if Fails id s op then r.attempts.toNat + 1 else r.attempts.toNat := by
  have hc := change_answer s op id
  rw [hr, hq] at hc
  split
  · rename_i hrequeue
    cases op with
    | requeue i =>
        simp only [Requeues, Bool.and_eq_true, decide_eq_true_eq] at hrequeue
        obtain ⟨rfl, hdead⟩ := hrequeue
        rw [hr, Option.any_some] at hdead
        rw [get?_requeue hr hdead] at hq
        cases hq
        rfl
    | _ => cases hrequeue
  · rename_i hrequeue
    split
    · rename_i hfails
      cases op with
      | markFailed i error now policy =>
          simp only [Fails, Bool.and_eq_true, decide_eq_true_eq] at hfails
          obtain ⟨rfl, hlive⟩ := hfails
          rw [hr, Option.any_some, Bool.not_eq_true'] at hlive
          rw [get?_markFailed hr hlive] at hq
          cases hq
          exact Row.toNat_countAttempt (hsound.spare hlive)
      | _ => cases hfails
    · rename_i hfails
      cases hc with
      | same | leased | processed => rfl
      | failed error now policy _ hlive => exact absurd (by simp [Fails, hr, hlive]) hfails
      | requeued _ hdead => exact absurd (by simp [Requeues, hr, hdead]) hrequeue

theorem Change.kept {x : Option Row} (h : Change id op (some r) x) (hr : s.get? id = some r) (hsound : r.IsSound) :
    (x = none ∧ r.isDeadLettered = false) ∨ ∃ q, x = some q ∧ q.asStaged = r.asStaged ∧ q.IsSound ∧
      (r.isProcessed = true → q = r) ∧ (r.isDeadLettered = true → Requeues id s op = false → q = r) := by
  cases h with
  | same => exact .inr ⟨r, rfl, rfl, hsound, fun _ => rfl, fun _ _ => rfl⟩
  | leased take worker lease now expiry _ hexpiry hclaim =>
      have hlive := Row.not_terminal_of_claimable hclaim
      obtain ⟨hp, hd⟩ := Row.isTerminal_eq_false.1 hlive
      exact .inr ⟨_, rfl, rfl, hsound.leasedTo hlive worker expiry, by simp [hp], by simp [hd]⟩
  | processed now _ hlive =>
      obtain ⟨hp, hd⟩ := Row.isTerminal_eq_false.1 hlive
      exact .inr ⟨_, rfl, rfl, hsound.processed hlive now, by simp [hp], by simp [hd]⟩
  | failed error now policy _ hlive =>
      obtain ⟨hp, hd⟩ := Row.isTerminal_eq_false.1 hlive
      exact .inr ⟨_, rfl, rfl, .failed hlive error now policy, by simp [hp], by simp [hd]⟩
  | requeued _ hdead =>
      refine .inr ⟨_, rfl, rfl, hsound.requeued hdead, fun hp => absurd ⟨hp, hdead⟩ hsound.one_end, fun _ hop => ?_⟩
      simp [Requeues, hr, hdead] at hop
  | purged before t _ ht hbefore =>
      have hp : r.isProcessed = true := by simp [Row.isProcessed, ht]
      refine .inl ⟨rfl, ?_⟩
      rw [← Bool.not_eq_true]
      exact fun hd => hsound.one_end ⟨hp, hd⟩

theorem deletes_of_none (hr : s.get? id = some r) (hnone : (s.answer op).2.get? id = none) : Deletes id s op := by
  have hc := change_answer s op id
  rw [hr, hnone] at hc
  cases hc with
  | purged before t _ ht hbefore => exact ⟨by simp [hr], by simpa [answer] using hnone⟩

theorem row_stays (hr : s.get? id = some r) (hsound : r.IsSound) (hops : ¬ Meets (Deletes id) s ops) :
    ∃ q, (s.after ops).get? id = some q ∧ q.asStaged = r.asStaged ∧ (r.isProcessed = true → q = r) ∧
      q.attempts.toNat = counted id r.attempts.toNat s ops := by
  induction ops generalizing s r with
  | nil => exact ⟨r, hr, rfl, fun _ => rfl, rfl⟩
  | cons op ops ih =>
      obtain ⟨hop, hops⟩ := not_or.1 hops
      have hc := change_answer s op id
      rw [hr] at hc
      obtain ⟨hnone, -⟩ | ⟨p, hp, hstaged, hsound', hproc, -⟩ := hc.kept hr hsound
      · exact absurd (deletes_of_none hr hnone) hop
      obtain ⟨q, hq, hstaged', hproc', hcount⟩ := ih hp hsound' hops
      refine ⟨q, hq, hstaged'.trans hstaged, fun h => ?_, ?_⟩
      · obtain rfl := hproc h
        exact hproc' h
      · rw [hcount, attempts_answer hr hp hsound, counted]

theorem dead_stays (hr : s.get? id = some r) (hsound : r.IsSound) (hdead : r.isDeadLettered = true)
    (hops : ¬ Meets (Requeues id · ·) s ops) : ¬ Meets (Deletes id) s ops ∧ (s.after ops).get? id = some r := by
  induction ops generalizing s with
  | nil => exact ⟨not_false, hr⟩
  | cons op ops ih =>
      obtain ⟨hop, hops⟩ := not_or.1 hops
      have hc := change_answer s op id
      rw [hr] at hc
      obtain ⟨-, hlive⟩ | ⟨q, hq, -, -, -, hsame⟩ := hc.kept hr hsound
      · exact absurd (hlive.symm.trans hdead) (by decide)
      obtain rfl := hsame hdead (by simpa using hop)
      obtain ⟨hkept, hrest⟩ := ih hq hops
      refine ⟨not_or.2 ⟨fun hd => ?_, hkept⟩, hrest⟩
      simp [hd.leaves.2] at hq

theorem answer_other {i : EventId} (h : op.target? = some id) (hi : i ≠ id) :
    (s.answer op).2.get? i = s.get? i := by
  have hc := change_answer s op i
  generalize (s.answer op).2.get? i = y at hc
  generalize s.get? i = x at hc
  cases hc with
  | same => rfl
  | processed | failed | requeued => exact absurd (Option.some.inj h) hi
  | added | leased | purged => cases h

theorem answer_missing (h : op.target? = some id) (hnone : s.get? id = none) :
    s.answer op = (.refused (.notFound id), s) := by
  cases op with
  | markProcessed i now =>
      cases h
      simp [answer, reply, markProcessed, hnone]
  | markFailed i error now policy =>
      cases h
      simp [answer, reply, markFailed, hnone]
  | requeue i =>
      cases h
      simp [answer, reply, requeue, hnone]
  | _ => cases h

/-- What a run of operations leaves of the rows that a store held before it. -/
structure KeepsRows (s : Store) (ops : List Operation) : Prop where
  stays : ∀ id r, s.get? id = some r → ¬ Meets (Deletes id) s ops →
    ∃ q, (s.after ops).get? id = some q ∧ q.asStaged = r.asStaged ∧ (r.isProcessed = true → q = r) ∧
      q.attempts.toNat = counted id r.attempts.toNat s ops
  dead : ∀ id r, s.get? id = some r → r.isDeadLettered = true → ¬ Meets (Requeues id · ·) s ops →
    ¬ Meets (Deletes id) s ops ∧ (s.after ops).get? id = some r

/-- What a purge does: it takes the rows processed before a moment, says how many they were, and a second
one finds what a single purge up to the later moment would have taken. -/
structure PurgesProcessed (s : Store) : Prop where
  rows : ∀ before id, (s.purge before).2.get? id = (s.get? id).filter fun r => !r.isProcessedBefore before
  count : ∀ before, (s.purge before).1 = s.rows.entries.countP (·.isProcessedBefore before)
  twice : ∀ a b, ((s.purge a).2.purge b).2 = (s.purge (max a b)).2 ∧
    (s.purge a).1 + ((s.purge a).2.purge b).1 = (s.purge (max a b)).1

/-- An operation that is about one row leaves all others alone, and without that row it does nothing. -/
def KeepsToTarget (s : Store) : Prop := ∀ op id, op.target? = some id →
  (∀ i, i ≠ id → (s.answer op).2.get? i = s.get? i) ∧
    (s.get? id = none → s.answer op = (.refused (.notFound id), s))

/-- The history of a store's rows: after any run from the empty store, with any further operations. -/
theorem rows_history (past ops : List Operation) (hpast : AddsStaged past) :
    (empty.after (past ++ ops)).ids ++ tallied deleted empty (past ++ ops) ~ tallied inserted empty (past ++ ops) ∧
      (empty.after past).KeepsRows ops ∧ (empty.after (past ++ ops)).PurgesProcessed ∧
      (empty.after (past ++ ops)).KeepsToTarget := by
  have hsound := isSound_after isSound_empty hpast
  refine ⟨ids_after empty (past ++ ops), ⟨?_, ?_⟩, ⟨?_, count_purge _, ?_⟩, ?_⟩
  · exact fun id r hr hops => row_stays hr (hsound id r hr) hops
  · exact fun id r hr hdead hops => dead_stays hr (hsound id r hr) hdead hops
  · intro before id
    simp only [get?_purge, keeps_iff]
  · exact fun a b => ⟨purge_purge _ a b, count_purge_purge _ a b⟩
  · exact fun op id h => ⟨fun i hi => answer_other h hi, answer_missing h⟩

theorem rows_history_purged :
    let past := [Operation.add [Row.sample 7, Row.sample 8], .markProcessed ⟨.ofNat 7⟩ .epoch,
      .markFailed ⟨.ofNat 8⟩ "down" .epoch .once]
    let ops := [Operation.purge (Time.epoch.later 1), .requeue ⟨.ofNat 8⟩]
    AddsStaged past ∧ tallied inserted empty (past ++ ops) = [⟨.ofNat 7⟩, ⟨.ofNat 8⟩] ∧
      tallied deleted empty (past ++ ops) = [⟨.ofNat 7⟩] ∧
      (empty.after (past ++ ops)).ids ++ tallied deleted empty (past ++ ops) ~
        tallied inserted empty (past ++ ops) ∧
      (empty.after past).KeepsRows ops ∧ (empty.after (past ++ ops)).PurgesProcessed ∧
      (empty.after (past ++ ops)).KeepsToTarget := by
  intro past ops
  have hpast : AddsStaged past := by
    intro rows h
    obtain rfl : rows = [Row.sample 7, Row.sample 8] := by simpa [past] using h
    decide
  exact ⟨hpast, by decide +kernel, by decide +kernel, rows_history past ops hpast⟩

end Outbox.Store
