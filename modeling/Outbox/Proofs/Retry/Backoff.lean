import Outbox.Proofs.Retry

namespace Outbox.RetryPolicy

variable {p : RetryPolicy} {attempt n m : UInt32} {now t : Time}

/-- What a wait should be, in nanoseconds: the first doubled with each attempt after it, but no longer than the longest
of the policy and of any. -/
def stated (p : RetryPolicy) (attempt : UInt32) : Nat :=
  min (min (p.baseBackoff.nanos * 2 ^ (attempt.toNat - 1)) p.maxBackoff.nanos) backoffLimit.nanos

/-- There is no more than 31 doublings to count, nothing to double, or the longest wait is reached with as many as can
be counted. -/
def IsInReach (p : RetryPolicy) (attempt : UInt32) : Prop :=
  attempt ≤ 32 ∨ p.baseBackoff = .zero ∨
    min p.maxBackoff.nanos backoffLimit.nanos ≤ p.baseBackoff.nanos * 0xFFFF_FFFF

theorem stated_eq (p : RetryPolicy) (attempt : UInt32) :
    p.stated attempt = min (p.baseBackoff.nanos * 2 ^ (attempt.toNat - 1)) p.ceiling := Nat.min_assoc ..

theorem isInReach_iff : p.IsInReach attempt ↔
    min (p.baseBackoff.nanos * doubling attempt) p.ceiling =
      min (p.baseBackoff.nanos * 2 ^ (attempt.toNat - 1)) p.ceiling := by
  have hzero : p.baseBackoff = .zero ↔ p.baseBackoff.nanos = 0 := by
    cases p.baseBackoff
    simp [Duration.zero]
  rw [min_doubling_iff, IsInReach, hzero, ceiling]

/-- A wait is as stated as long as the doublings can be counted, and beyond that where the longest wait is reached
anyway. Elsewhere it is too short, and the same for all attempts. -/
theorem backoff_eq_stated_iff (p : RetryPolicy) (hattempt : attempt ≠ 0) :
    ((p.backoff attempt).nanos = p.stated attempt ↔ p.IsInReach attempt) ∧
      (¬p.IsInReach attempt → (p.backoff attempt).nanos = p.baseBackoff.nanos * 0xFFFF_FFFF ∧
        (p.backoff attempt).nanos < p.stated attempt) := by
  rw [p.backoff_nanos_eq hattempt, stated_eq, isInReach_iff]
  refine ⟨Iff.rfl, fun hshort => ?_⟩
  have hnot := mt min_doubling_iff.2 hshort
  obtain ⟨hmany, -, hceiling⟩ : ¬attempt ≤ 32 ∧ p.baseBackoff.nanos ≠ 0 ∧
      p.baseBackoff.nanos * 0xFFFF_FFFF < p.ceiling := by simpa [not_or] using hnot
  have hless := Nat.mul_le_mul_left p.baseBackoff.nanos (Nat.le_of_lt (two_pow_lt hmany))
  rw [show doubling attempt = 0xFFFF_FFFF from if_neg hmany] at hshort ⊢
  omega

theorem backoff_eq_stated_iff_millisecond : let p : RetryPolicy := ⟨100, .ofMillis 1, backoffLimit⟩
    (40 : UInt32) ≠ 0 ∧ p.IsInReach 40 ∧ (p.backoff 40).nanos = p.stated 40 := by
  intro p
  have hattempt : (40 : UInt32) ≠ 0 := by decide
  have hreach : p.IsInReach 40 := .inr (.inr (by decide))
  exact ⟨hattempt, hreach, (backoff_eq_stated_iff p hattempt).1.2 hreach⟩

theorem backoff_short_of_stated : let p : RetryPolicy := ⟨100, ⟨1, by decide⟩, .ofSeconds 300⟩
    p.stated 33 = 4_294_967_296 ∧ (p.backoff 33).nanos = 4_294_967_295 := by
  decide

theorem doubling_mono (h : n ≤ m) : doubling n ≤ doubling m := by
  have hnat : n.toNat ≤ m.toNat := UInt32.le_iff_toNat_le.1 h
  have hpow : 2 ^ (n.toNat - 1) ≤ 2 ^ (m.toNat - 1) := Nat.pow_le_pow_right (by decide) (by omega)
  rw [doubling_eq, doubling_eq]
  omega

theorem backoff_mono (p : RetryPolicy) (h : n ≤ m) : p.backoff n ≤ p.backoff m := by
  by_cases hn : n = 0
  · rw [backoff, if_pos hn]
    exact Nat.zero_le _
  have hm : m ≠ 0 := by
    rintro rfl
    exact hn (UInt32.le_zero_iff.1 h)
  have hproduct := Nat.mul_le_mul_left p.baseBackoff.nanos (doubling_mono h)
  show (p.backoff n).nanos ≤ (p.backoff m).nanos
  rw [p.backoff_nanos_eq hn, p.backoff_nanos_eq hm]
  omega

theorem backoff_le_min (p : RetryPolicy) (attempt : UInt32) :
    p.backoff attempt ≤ min p.maxBackoff backoffLimit := by
  show (p.backoff attempt).nanos ≤ (min p.maxBackoff backoffLimit).nanos
  rw [Duration.min_nanos]
  by_cases hattempt : attempt = 0
  · rw [backoff, if_pos hattempt]
    exact Nat.zero_le _
  · rw [p.backoff_nanos_eq hattempt]
    exact Nat.min_le_right ..

theorem leaseExpiry_granted_iff {lease : Duration} (hnow : now ≤ .latest) :
    (∃ t, leaseExpiry now lease = .ok t) ↔ lease ≠ .zero ∧ ∃ t, now.IsSum lease t ∧ t ≤ .latest := by
  simp only [leaseExpiry_eq_ok_iff, Time.plus?_eq_some_iff, exists_and_left]
  refine and_congr_right fun _ => exists_congr fun t => (and_iff_left_of_imp fun ht => ?_).symm
  exact Time.le_latest_of_plus? hnow (Time.plus?_eq_some_iff.2 ht)

/-- Waits grow with the attempts, up to the longest, and the attempts that they lead to come no earlier for it. Each
is the wait after now, or at the end of the calendar if that is not in it. A lease is granted if it is not empty and
ends in the calendar, and then it lasts beyond now. -/
theorem deadlines_monotone (p : RetryPolicy) (hnm : n ≤ m) (hnow : now ≤ .latest) :
    (p.backoff n ≤ p.backoff m ∧ p.backoff m ≤ min p.maxBackoff backoffLimit) ∧
      (p.nextAttempt n now = none ↔ p.maxAttempts ≤ n) ∧
      (∀ t, p.nextAttempt n now = some t → now ≤ t ∧ t ≤ .latest ∧
        (∀ u, now.IsSum (p.backoff n) u → t = u) ∧ ((∀ u, ¬now.IsSum (p.backoff n) u) → t = .latest) ∧
        ∀ u, p.nextAttempt m now = some u → t ≤ u) ∧
      ∀ lease, ((∃ t, leaseExpiry now lease = .ok t) ↔ lease ≠ .zero ∧ ∃ t, now.IsSum lease t ∧ t ≤ .latest) ∧
        ∀ t, leaseExpiry now lease = .ok t → now < t ∧ now.IsSum lease t := by
  refine ⟨⟨p.backoff_mono hnm, p.backoff_le_min m⟩, nextAttempt_eq_none_iff, fun t ht => ?_, fun lease => ?_⟩
  · obtain ⟨-, rfl⟩ := nextAttempt_eq_some_iff.1 ht
    refine ⟨Time.le_plus? hnow _, Time.plus?_le_latest hnow _, fun u hu => ?_, fun hnone => ?_, fun u hu => ?_⟩
    · rw [Time.plus?_eq_some_iff.2 hu, Option.getD_some]
    · have hlate : now.plus? (p.backoff n) = none :=
        Option.eq_none_iff_forall_ne_some.2 fun u hu => hnone u (Time.plus?_eq_some_iff.1 hu)
      rw [hlate, Option.getD_none]
    · obtain ⟨-, rfl⟩ := nextAttempt_eq_some_iff.1 hu
      exact Time.plus?_mono hnow (p.backoff_mono hnm)
  · refine ⟨leaseExpiry_granted_iff hnow, fun t ht => ?_⟩
    obtain ⟨hlease, hplus⟩ := leaseExpiry_eq_ok_iff.1 ht
    exact ⟨Time.lt_plus? hlease hplus, Time.plus?_eq_some_iff.1 hplus⟩

/-- Of two waits that begin halfway through a leap second, the shorter ends in it and the longer with it. -/
theorem deadlines_monotone_leap :
    let now : Time := ⟨1483228799, 1_500_000_000, by decide, by decide, by decide, by decide⟩
    let p : RetryPolicy := ⟨3, .ofMillis 250, .ofSeconds 60⟩
    ∃ t u, (1 : UInt32) ≤ 2 ∧ now ≤ .latest ∧ p.nextAttempt 1 now = some t ∧ p.nextAttempt 2 now = some u ∧
      t.IsLeap ∧ u.seconds = 1483228800 ∧ u.nanos = 0 ∧ now ≤ t ∧ t ≤ u := by
  intro now p
  have hnm : (1 : UInt32) ≤ 2 := by decide
  have hnow : now ≤ .latest := by decide
  obtain ⟨t, ht, htleap⟩ : ∃ t, p.nextAttempt 1 now = some t ∧ 1_000_000_000 ≤ t.nanos := ⟨_, rfl, by decide⟩
  obtain ⟨u, hu, hseconds, hnanos⟩ : ∃ u, p.nextAttempt 2 now = some u ∧ u.seconds = 1483228800 ∧ u.nanos = 0 :=
    ⟨_, rfl, by decide, by decide⟩
  obtain ⟨-, -, hends, -⟩ := deadlines_monotone p hnm hnow
  obtain ⟨hle, -, -, -, hlater⟩ := hends t ht
  exact ⟨t, u, hnm, hnow, ht, hu, htleap, hseconds, hnanos, hle, hlater u hu⟩

end Outbox.RetryPolicy
