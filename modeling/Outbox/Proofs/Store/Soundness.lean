import Outbox.Proofs.Store.Operation
import Outbox.Worker.Iteration

namespace Outbox

/-- The facts that tie the fields of a row together. -/
structure Row.IsSound (r : Row) : Prop where
  one_end : ¬ (r.isProcessed = true ∧ r.isDeadLettered = true)
  whole_lease : r.lockedBy.isSome = r.lockedUntil.isSome
  free_at_end : r.isTerminal = true → r.lockedBy = none ∧ r.lockedUntil = none
  dead : r.isDeadLettered = true → 1 ≤ r.attempts.toNat ∧ r.error.isSome = true ∧ r.nextAttemptAt = none
  delivered : r.isProcessed = true → r.error = none
  waits : r.isDeadLettered = false → (r.nextAttemptAt.isSome = true ↔ 1 ≤ r.attempts.toNat)
  tried : r.isTerminal = false → 1 ≤ r.attempts.toNat → r.error.isSome = true
  short_error : ∀ e, r.error = some e → e.length ≤ 4000
  spare : r.isTerminal = false → r.attempts.toNat < 0xFFFFFFFF

theorem length_clipError (e : String) : (clipError e).length ≤ 4000 := by
  rw [clipError, String.length_ofList, List.length_take]
  exact Nat.min_le_left ..

theorem RetryPolicy.nextAttempt_isSome (p : RetryPolicy) (n : UInt32) (now : Time) :
    (p.nextAttempt n now).isSome = p.shouldRetry n := by
  unfold nextAttempt
  split <;> simp_all

namespace Row

variable {r : Row} {now : Time}

theorem lt_of_shouldRetry {p : RetryPolicy} {n : UInt32} (h : p.shouldRetry n = true) : n.toNat < 0xFFFFFFFF := by
  have hlt : n.toNat < p.maxAttempts.toNat := by simpa [RetryPolicy.shouldRetry, UInt32.lt_iff_toNat_lt] using h
  have hword := p.maxAttempts.toNat_lt
  omega

theorem toNat_countAttempt {n : UInt32} (h : n.toNat < 0xFFFFFFFF) : (countAttempt n).toNat = n.toNat + 1 := by
  have hne : n ≠ 0xFFFFFFFF := by
    rintro rfl
    exact absurd h (by decide)
  rw [countAttempt, if_neg hne, UInt32.toNat_add, UInt32.toNat_one, Nat.mod_eq_of_lt (by omega)]

theorem one_le_countAttempt (n : UInt32) : 1 ≤ (countAttempt n).toNat := by
  by_cases h : n = 0xFFFFFFFF
  · subst h
    decide
  · have hlt : n.toNat < 0xFFFFFFFF := by
      have hword := n.toNat_lt
      have hne : n.toNat ≠ 0xFFFFFFFF := fun he => h (UInt32.toNat_inj.1 he)
      omega
    rw [toNat_countAttempt hlt]
    omega

theorem IsStaged.isSound (h : r.IsStaged) : r.IsSound := by
  rw [← h]
  constructor <;> simp [asStaged, staged, isProcessed, isDeadLettered, isTerminal]

theorem IsSound.leasedTo (h : r.IsSound) (hlive : r.isTerminal = false) (worker : String) (expiry : Time) :
    (r.leasedTo worker expiry).IsSound where
  one_end := h.one_end
  whole_lease := rfl
  free_at_end ht := absurd ht (by simp [hlive])
  dead := h.dead
  delivered := h.delivered
  waits := h.waits
  tried := h.tried
  short_error := h.short_error
  spare := h.spare

theorem IsSound.processed (h : r.IsSound) (hlive : r.isTerminal = false) (now : Time) : (r.processed now).IsSound := by
  obtain ⟨-, hdead⟩ := isTerminal_eq_false.1 hlive
  exact {
    one_end := fun ⟨_, hd⟩ => absurd (hdead.symm.trans hd) (by decide)
    whole_lease := rfl
    free_at_end := fun _ => ⟨rfl, rfl⟩
    dead := fun hd => absurd (hdead.symm.trans hd) (by decide)
    delivered := fun _ => rfl
    waits := h.waits
    tried := fun ht => absurd ht (by simp [Row.processed, isTerminal, isProcessed])
    short_error := by simp [Row.processed]
    spare := fun ht => absurd ht (by simp [Row.processed, isTerminal, isProcessed]) }

theorem isDeadLettered_failed (hlive : r.isTerminal = false) (error : String) (now : Time) (policy : RetryPolicy) :
    (r.failed error now policy).isDeadLettered = !policy.shouldRetry (countAttempt r.attempts) := by
  obtain ⟨-, hdead⟩ := isTerminal_eq_false.1 hlive
  rw [← policy.nextAttempt_isSome _ now]
  cases hn : policy.nextAttempt (countAttempt r.attempts) now <;>
    simp_all [isDeadLettered, failed]

theorem IsSound.failed (hlive : r.isTerminal = false) (error : String) (now : Time) (policy : RetryPolicy) :
    (r.failed error now policy).IsSound := by
  obtain ⟨hproc, -⟩ := isTerminal_eq_false.1 hlive
  have hdead := isDeadLettered_failed hlive error now policy
  have hnext := policy.nextAttempt_isSome (countAttempt r.attempts) now
  have hone := one_le_countAttempt r.attempts
  exact {
    one_end := fun ⟨hp, _⟩ => absurd (hproc.symm.trans hp) (by decide)
    whole_lease := rfl
    free_at_end := fun _ => ⟨rfl, rfl⟩
    dead := fun hd => ⟨hone, rfl, by
      rw [hdead, ← hnext, Bool.not_eq_true', Option.isSome_eq_false_iff, Option.isNone_iff_eq_none] at hd
      exact hd⟩
    delivered := fun hp => absurd (hproc.symm.trans hp) (by decide)
    waits := fun hd => by
      rw [hdead, Bool.not_eq_false'] at hd
      exact ⟨fun _ => hone, fun _ => hnext.trans hd⟩
    tried := fun _ _ => rfl
    short_error := by
      rintro _ ⟨⟩
      exact length_clipError error
    spare := fun ht => by
      have hd := (isTerminal_eq_false.1 ht).2
      rw [hdead, Bool.not_eq_false'] at hd
      exact lt_of_shouldRetry hd }

theorem IsSound.requeued (h : r.IsSound) (hdead : r.isDeadLettered = true) : r.requeued.IsSound := by
  have hproc : r.isProcessed = false := by
    rw [← Bool.not_eq_true]
    exact fun hp => h.one_end ⟨hp, hdead⟩
  exact {
    one_end := fun ⟨_, hd⟩ => absurd hd (by simp [Row.requeued, isDeadLettered])
    whole_lease := rfl
    free_at_end := fun _ => ⟨rfl, rfl⟩
    dead := fun hd => absurd hd (by simp [Row.requeued, isDeadLettered])
    delivered := fun hp => absurd (hproc.symm.trans hp) (by decide)
    waits := by simp [Row.requeued]
    tried := by simp [Row.requeued]
    short_error := h.short_error
    spare := by simp [Row.requeued] }

end Row

theorem Worker.warn_of_lt {m : Type → Type} [Monad m] {r : Row} (h : r.attempts.toNat < 0xFFFFFFFF) (s : Settings)
    (b : Backend m) (error : String) :
    warn s r b error =
      if b.hearsWarnings then (liftM (b.log (publishFailedEvent s r (r.attempts + 1) error)) : ExceptT Abort m Unit)
      else pure () := by
  have hne : r.attempts ≠ 0xFFFFFFFF := fun he => absurd h (by rw [he]; decide)
  simp only [warn, if_neg hne]

namespace Store

def AddsStaged (ops : List Operation) : Prop := ∀ rows, Operation.add rows ∈ ops → ∀ r ∈ rows, r.IsStaged

def IsSound (s : Store) : Prop := ∀ id r, s.get? id = some r → r.IsSound

theorem Change.isSound {id : EventId} {op : Operation} {x : Option Row} {q : Row} (h : Change id op x (some q))
    (hx : ∀ r, x = some r → r.IsSound) (hadd : ∀ rows, op = .add rows → ∀ r ∈ rows, r.IsStaged) : q.IsSound := by
  cases h with
  | same => exact hx q rfl
  | added rows _ hr => exact (hadd rows rfl q hr).isSound
  | leased take worker lease now expiry r _ hclaim =>
      exact (hx r rfl).leasedTo (Row.not_terminal_of_claimable hclaim) worker expiry
  | processed now r hlive => exact (hx r rfl).processed hlive now
  | failed error now policy r hlive => exact .failed hlive error now policy
  | requeued r hdead => exact (hx r rfl).requeued hdead

theorem isSound_empty : empty.IsSound := by
  intro id r h
  simp at h

theorem isSound_answer {s : Store} {op : Operation} (hs : s.IsSound)
    (hadd : ∀ rows, op = .add rows → ∀ r ∈ rows, r.IsStaged) : (s.answer op).2.IsSound := by
  intro id q hq
  have hc := change_answer s op id
  rw [hq] at hc
  exact hc.isSound (hs id) hadd

theorem isSound_after {s : Store} {ops : List Operation} (hs : s.IsSound) (hops : AddsStaged ops) :
    (s.after ops).IsSound := by
  induction ops generalizing s with
  | nil => exact hs
  | cons op ops ih =>
      refine ih (isSound_answer hs ?_) fun rows h => hops rows (List.mem_cons_of_mem _ h)
      rintro rows rfl
      exact hops rows (List.mem_cons_self ..)

/-- Whatever is done to a store of rows that were added fresh, its rows stay sound, and no attempt at one of
them is one too many to count. -/
theorem rows_sound (ops : List Operation) (hops : AddsStaged ops) (id : EventId) (r : Row)
    (h : (empty.after ops).get? id = some r) :
    r.id = id ∧ r.IsSound ∧ (r.isTerminal = false →
      (r.attempts + 1).toNat = r.attempts.toNat + 1 ∧ Row.countAttempt r.attempts = r.attempts + 1 ∧
      ∀ (m : Type → Type) [Monad m] (s : Settings) (b : Backend m) (error : String),
        Worker.warn s r b error =
          if b.hearsWarnings then
            (liftM (b.log (Worker.publishFailedEvent s r (r.attempts + 1) error)) : ExceptT Abort m Unit)
          else pure ()) := by
  have hsound := isSound_after isSound_empty hops id r h
  refine ⟨id_of_get? h, hsound, fun hlive => ?_⟩
  have hspare := hsound.spare hlive
  have hcount := Row.toNat_countAttempt hspare
  have hnext : (r.attempts + 1).toNat = r.attempts.toNat + 1 := by
    rw [UInt32.toNat_add, UInt32.toNat_one, Nat.mod_eq_of_lt (by omega)]
  exact ⟨hnext, UInt32.toNat_inj.1 (hcount.trans hnext.symm), fun m _ s b error => Worker.warn_of_lt hspare s b error⟩

theorem rows_sound_requeued :
    let ops := [Operation.add [Row.sample 7], .markFailed ⟨.ofNat 7⟩ "down" .epoch .once, .requeue ⟨.ofNat 7⟩,
      .markFailed ⟨.ofNat 7⟩ "late" .epoch .standard, .claim 1 "worker" (.ofSeconds 1) (Time.epoch.later 2)]
    let r := { (Row.sample 7).leasedTo "worker" (Time.epoch.later 3) with
      error := some "late", attempts := 1, nextAttemptAt := some (Time.epoch.later 2) }
    AddsStaged ops ∧ (empty.after ops).get? ⟨.ofNat 7⟩ = some r ∧ r.isTerminal = false ∧
      r.id = ⟨.ofNat 7⟩ ∧ r.IsSound ∧ Row.countAttempt r.attempts = r.attempts + 1 := by
  intro ops r
  have hops : AddsStaged ops := by
    intro rows h
    obtain rfl : rows = [Row.sample 7] := by simpa [ops] using h
    decide
  have hr : (empty.after ops).get? ⟨.ofNat 7⟩ = some r := by decide +kernel
  obtain ⟨hid, hsound, hcount⟩ := rows_sound ops hops ⟨.ofNat 7⟩ r hr
  exact ⟨hops, hr, rfl, hid, hsound, (hcount rfl).2.1⟩

end Store

end Outbox
