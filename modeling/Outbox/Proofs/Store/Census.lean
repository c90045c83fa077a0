import Outbox.Proofs.Store.Claiming

namespace Outbox

namespace Row

variable {r : Row} {now later : Time}

theorem one_state (r : Row) (now : Time) :
    [r.isTerminal, r.isLeased now, r.isBackingOff now, r.isClaimable now].count true = 1 := by
  rw [isClaimable_eq, isBackingOff, isLeased]
  generalize r.isTerminal = ended
  generalize (r.lockedUntil.any fun t => decide (now ≤ t)) = held
  generalize (r.nextAttemptAt.any fun t => decide (now < t)) = waiting
  revert ended held waiting
  decide

theorem leased_before (h : now ≤ later) (hleased : r.isLeased later = true) : r.isLeased now = true := by
  simp only [isLeased, Bool.and_eq_true, Option.any_eq_true, decide_eq_true_eq] at hleased ⊢
  obtain ⟨hlive, t, ht, hle⟩ := hleased
  exact ⟨hlive, t, ht, Int.le_trans h hle⟩

theorem claimable_after (h : now ≤ later) (hclaim : r.isClaimable now = true) : r.isClaimable later = true := by
  simp only [isClaimable, Bool.and_eq_true, Option.all_eq_true, decide_eq_true_eq] at hclaim ⊢
  obtain ⟨⟨hlive, hnext⟩, hlocked⟩ := hclaim
  exact ⟨⟨hlive, fun t ht => Int.le_trans (hnext t ht) h⟩, fun t ht => Time.lt_of_lt_of_le (hlocked t ht) h⟩

theorem backingOff_before (h : now ≤ later) (hwaits : r.isBackingOff later = true) :
    r.isLeased now = true ∨ r.isBackingOff now = true := by
  simp only [isBackingOff, Bool.and_eq_true, Bool.not_eq_true', Option.any_eq_true, decide_eq_true_eq] at hwaits ⊢
  obtain ⟨⟨hlive, -⟩, t, ht, hlt⟩ := hwaits
  cases hleased : r.isLeased now with
  | true => exact .inl rfl
  | false => exact .inr ⟨⟨hlive, rfl⟩, t, ht, Time.lt_of_le_of_lt h hlt⟩

end Row

namespace Store

theorem state_iff (r : Row) (now : Time) :
    (state r now = .leased ↔ r.isLeased now = true) ∧ (state r now = .retrying ↔ r.isBackingOff now = true) ∧
      (state r now = .pending ↔ r.isClaimable now = true) ∧
      (state r now = .processed ∨ state r now = .deadLettered ↔ r.isTerminal = true) := by
  rw [state, Row.isClaimable_eq, Row.isBackingOff, Row.isLeased, Row.isTerminal]
  generalize r.isProcessed = processed
  generalize r.isDeadLettered = dead
  generalize (r.lockedUntil.any fun t => decide (now ≤ t)) = held
  generalize (r.nextAttemptAt.any fun t => decide (now < t)) = waiting
  revert processed dead held waiting
  decide

def count (rows : List Row) (now : Time) (st : State) : Nat := rows.countP fun r => state r now = st

theorem count_sum (rows : List Row) (now : Time) : count rows now .pending + count rows now .leased +
    count rows now .retrying + count rows now .processed + count rows now .deadLettered = rows.length := by
  induction rows with
  | nil => rfl
  | cons r rows ih =>
      simp only [count, List.countP_cons, List.length_cons] at ih ⊢
      cases state r now <;> simp <;> omega

theorem count_ended (rows : List Row) (now : Time) :
    count rows now .processed + count rows now .deadLettered = rows.countP Row.isTerminal := by
  induction rows with
  | nil => rfl
  | cons r rows ih =>
      obtain ⟨-, -, -, hended⟩ := state_iff r now
      simp only [count, List.countP_cons, ← hended] at ih ⊢
      cases state r now <;> simp <;> omega

theorem length_claimable (s : Store) (now : Time) : (s.claimable now).length = (s.stats now).pending := by
  rw [claimable, List.length_mergeSort, ← List.countP_eq_length_filter]
  refine List.countP_congr fun r _ => ?_
  rw [decide_eq_true_eq, (state_iff r now).2.2.1]

/-- A row is in one of four states at any time, and while nothing is done to it, it goes from being leased to waiting
and from there to being claimable, and never back. The counts of a store add up to its rows and say how many are in each
state, and a claim that asks for all is given as many rows as are pending. -/
theorem states_partition (s : Store) :
    (∀ (r : Row) (now : Time),
      [r.isTerminal, r.isLeased now, r.isBackingOff now, r.isClaimable now].count true = 1) ∧
    (∀ (r : Row) (now later : Time), now ≤ later → (r.isLeased later = true → r.isLeased now = true) ∧
      (r.isBackingOff later = true → r.isLeased now = true ∨ r.isBackingOff now = true) ∧
      (r.isClaimable now = true → r.isClaimable later = true)) ∧
    ∀ now, ∃ counts, s.answer (.stats now) = (.stats counts, s) ∧
      counts.pending + counts.leased + counts.retrying + counts.processed + counts.deadLettered = s.rows.size ∧
      counts.processed + counts.deadLettered = s.rows.entries.countP Row.isTerminal ∧
      counts.leased = s.rows.entries.countP (·.isLeased now) ∧
      counts.retrying = s.rows.entries.countP (·.isBackingOff now) ∧
      ∀ take worker lease, s.rows.size ≤ take → lease ≠ .zero → (now.plus? lease).isSome = true →
        ∃ batch s', s.answer (.claim take worker lease now) = (.rows batch, s') ∧ batch.length = counts.pending := by
  refine ⟨Row.one_state, fun r now later h => ⟨Row.leased_before h, Row.backingOff_before h, Row.claimable_after h⟩,
    fun now => ⟨s.stats now, rfl, count_sum .., count_ended .., ?_, ?_, ?_⟩⟩
  · refine List.countP_congr fun r _ => ?_
    rw [decide_eq_true_eq, (state_iff r now).1]
  · refine List.countP_congr fun r _ => ?_
    rw [decide_eq_true_eq, (state_iff r now).2.1]
  · intro take worker lease htake hlease hplus
    obtain ⟨expiry, hexpiry⟩ := Option.isSome_iff_exists.1 hplus
    refine ⟨_, _, s.answer_claim_granted take worker (leaseExpiry_eq_ok_iff.2 ⟨hlease, hexpiry⟩), ?_⟩
    have hall : (s.stats now).pending ≤ s.rows.size := List.countP_le_length
    rw [length_batchOf, length_claimable]
    omega

theorem states_partition_each :
    let rows := [Row.sample 1, (Row.sample 2).leasedTo "worker" (Time.epoch.later 30),
      (Row.sample 3).failed "down" .epoch .standard, (Row.sample 4).processed .epoch,
      (Row.sample 5).failed "down" .epoch .once]
    let s := rows.foldl put empty
    let now := Time.epoch.later 1
    s.answer (.stats now) = (.stats ⟨1, 1, 1, 1, 1⟩, s) ∧ s.rows.size ≤ 5 ∧ Duration.ofSeconds 30 ≠ .zero ∧
      (now.plus? (.ofSeconds 30)).isSome = true ∧
      ∃ batch s', s.answer (.claim 5 "other" (.ofSeconds 30) now) = (.rows batch, s') ∧ batch.length = 1 := by
  intro rows s now
  have hstats : s.answer (.stats now) = (.stats ⟨1, 1, 1, 1, 1⟩, s) := by decide +kernel
  have hsize : s.rows.size ≤ 5 := by decide +kernel
  have hlease : Duration.ofSeconds 30 ≠ .zero := by decide
  have hplus : (now.plus? (.ofSeconds 30)).isSome = true := by decide
  obtain ⟨counts, hcounts, -, -, -, -, hclaim⟩ := (states_partition s).2.2 now
  cases hstats.symm.trans hcounts
  exact ⟨hstats, hsize, hlease, hplus, hclaim 5 "other" (.ofSeconds 30) hsize hlease hplus⟩

end Store

end Outbox
