import Mathlib.Algebra.Ring.Nat
import Outbox.Proofs.Time.Sum
import Outbox.Retry
import Outbox.Store

namespace Outbox

theorem Duration.min_nanos (a b : Duration) : (min a b).nanos = min a.nanos b.nanos := by
  have hmin : min a b = if a.nanos ≤ b.nanos then a else b := rfl
  rw [hmin, Nat.min_def]
  split <;> rfl

theorem Duration.scale_nanos (d : Duration) (k : Nat) : (d.scale k).nanos = min (d.nanos * k) longest.nanos := rfl

namespace RetryPolicy

variable {p : RetryPolicy} {attempt : UInt32} {now : Time}

theorem two_pow_lt {n : UInt32} (h : ¬n ≤ 32) : 0xFFFF_FFFF < 2 ^ (n.toNat - 1) := by
  have hmany : 32 ≤ n.toNat - 1 := by
    have hlt : ¬n.toNat ≤ 32 := fun hle => h (UInt32.le_iff_toNat_le.2 hle)
    omega
  calc
    0xFFFF_FFFF < 2 ^ 32 := by decide
    _ ≤ 2 ^ (n.toNat - 1) := Nat.pow_le_pow_right (by decide) hmany

theorem doubling_eq (attempt : UInt32) : doubling attempt = min (2 ^ (attempt.toNat - 1)) 0xFFFF_FFFF := by
  unfold doubling
  split
  · rename_i hfew
    have hpow : 2 ^ (attempt.toNat - 1) ≤ 2 ^ 31 := Nat.pow_le_pow_right (by decide) (by
      have hle : attempt.toNat ≤ 32 := UInt32.le_iff_toNat_le.1 hfew
      omega)
    exact (Nat.min_eq_left (Nat.le_trans hpow (by decide))).symm
  · rename_i hmany
    exact (Nat.min_eq_right (Nat.le_of_lt (two_pow_lt hmany))).symm

def ceiling (p : RetryPolicy) : Nat := min p.maxBackoff.nanos backoffLimit.nanos

/-- A product that is too long to be said is past the ceiling anyway. -/
theorem backoff_nanos_eq (p : RetryPolicy) (hattempt : attempt ≠ 0) :
    (p.backoff attempt).nanos = min (p.baseBackoff.nanos * doubling attempt) p.ceiling := by
  have hlimit : backoffLimit.nanos ≤ Duration.longest.nanos := by decide
  rw [backoff, if_neg hattempt, Duration.min_nanos, Duration.min_nanos, Duration.scale_nanos, ceiling]
  omega

/-- Where the doubling has stopped, it is missed unless there is nothing to double or the ceiling is reached. -/
theorem min_doubling_iff {base ceiling : Nat} :
    min (base * doubling attempt) ceiling = min (base * 2 ^ (attempt.toNat - 1)) ceiling ↔
      attempt ≤ 32 ∨ base = 0 ∨ ceiling ≤ base * 0xFFFF_FFFF := by
  by_cases hfew : attempt ≤ 32
  · rw [show doubling attempt = 2 ^ (attempt.toNat - 1) from if_pos hfew]
    exact iff_of_true rfl (.inl hfew)
  rw [show doubling attempt = 0xFFFF_FFFF from if_neg hfew]
  constructor
  · intro heq
    by_contra hnot
    obtain ⟨-, hbase, hceiling⟩ : ¬attempt ≤ 32 ∧ base ≠ 0 ∧ base * 0xFFFF_FFFF < ceiling := by
      simpa [not_or] using hnot
    have hless := Nat.mul_lt_mul_of_pos_left (two_pow_lt hfew) (Nat.pos_of_ne_zero hbase)
    omega
  · rintro (h | rfl | hceiling)
    · exact absurd h hfew
    · rw [Nat.zero_mul, Nat.zero_mul]
    · have hless := Nat.mul_le_mul_left base (Nat.le_of_lt (two_pow_lt hfew))
      omega

theorem backoff_nanos (hmax : p.maxBackoff ≤ backoffLimit) (hmillis : 1_000_000 ∣ p.baseBackoff.nanos)
    (hattempt : attempt ≠ 0) :
    (p.backoff attempt).nanos = min (p.baseBackoff.nanos * 2 ^ (attempt.toNat - 1)) p.maxBackoff.nanos := by
  have hceiling : p.ceiling = p.maxBackoff.nanos := Nat.min_eq_left hmax
  rw [p.backoff_nanos_eq hattempt, hceiling]
  refine min_doubling_iff.2 (.inr ?_)
  have hlimit : p.maxBackoff.nanos ≤ 1_000_000 * 0xFFFF_FFFF := Nat.le_trans hmax (by decide)
  omega

theorem backoff_le (p : RetryPolicy) (attempt : UInt32) : p.backoff attempt ≤ backoffLimit := by
  unfold backoff
  split
  · exact Nat.zero_le _
  · exact Nat.le_trans (Nat.le_of_eq (Duration.min_nanos _ _)) (Nat.min_le_right _ _)

end RetryPolicy

namespace Time

theorem exists_plus? {now : Time} {d : Duration} (hd : d ≤ backoffLimit)
    (hnow : now.clock + backoffLimit.nanos ≤ latest.clock) :
    ∃ t, now.plus? d = some t ∧ t.clock = now.clock + d.nanos := by
  have hd : d.nanos ≤ backoffLimit.nanos := hd
  obtain ⟨t, ht⟩ : ∃ t, now.IsSum d t := exists_isSum_iff.2 (by omega)
  exact ⟨t, plus?_eq_some_iff.2 ht, ht.clock_eq⟩

end Time

theorem leaseExpiry_eq_ok_iff {now expiry : Time} {lease : Duration} :
    leaseExpiry now lease = .ok expiry ↔ lease ≠ .zero ∧ now.plus? lease = some expiry := by
  unfold leaseExpiry
  by_cases hz : lease = .zero
  · simp [hz]
  · cases now.plus? lease <;> simp [hz]

theorem leaseExpiry_eq_error_iff {now : Time} {lease : Duration} {e : StoreError} :
    leaseExpiry now lease = .error e ↔ e = .invalidLease lease ∧ (lease = .zero ∨ now.plus? lease = none) := by
  unfold leaseExpiry
  by_cases hz : lease = .zero
  · simp [hz, eq_comm]
  · cases now.plus? lease <;> simp [hz, eq_comm]

theorem leaseExpiry_eq_ok {now t : Time} {lease : Duration} (hlease : .ofSeconds 1 ≤ lease)
    (ht : now.plus? lease = some t) : leaseExpiry now lease = .ok t := by
  refine leaseExpiry_eq_ok_iff.2 ⟨?_, ht⟩
  rintro rfl
  exact absurd hlease (by decide)

namespace RetryPolicy

variable {p : RetryPolicy} {attempts : UInt32} {now t : Time}

theorem nextAttempt_eq_none_iff : p.nextAttempt attempts now = none ↔ p.maxAttempts ≤ attempts := by
  rw [nextAttempt, ite_eq_right_iff, shouldRetry, decide_eq_true_eq, ← UInt32.not_lt]
  simp

theorem nextAttempt_eq_some_iff : p.nextAttempt attempts now = some t ↔
    attempts < p.maxAttempts ∧ (now.plus? (p.backoff attempts)).getD .latest = t := by
  rw [nextAttempt, Option.ite_none_right_eq_some, shouldRetry, decide_eq_true_eq, Option.some_inj]

theorem nextAttempt_eq_some (hattempts : attempts < p.maxAttempts) (ht : now.plus? (p.backoff attempts) = some t) :
    p.nextAttempt attempts now = some t := by
  rw [nextAttempt_eq_some_iff, ht]
  exact ⟨hattempts, rfl⟩

end RetryPolicy

end Outbox
