import Outbox.Proofs.Time

namespace Outbox.Time

def IsLeap (t : Time) : Prop := 1_000_000_000 ≤ t.nanos

/-- A clock without leap seconds shows the time that has passed. It shows each moment of a leap second as it showed the
one a second before, and the sum is in the leap second only where it began there and does not reach its end. -/
structure IsSum (t : Time) (d : Duration) (u : Time) : Prop where
  clock_eq : u.clock = t.clock + d.nanos
  leap_iff : u.IsLeap ↔ t.IsLeap ∧ t.nanos + d.nanos < 2_000_000_000

variable {t u v : Time} {d e : Duration}

theorem eq_of_clock_eq (hclock : u.clock = v.clock) (hleap : u.IsLeap ↔ v.IsLeap) : u = v := by
  have hu := u.nanos_lt
  have hv := v.nanos_lt
  unfold clock fraction at hclock
  unfold IsLeap at hleap
  apply rank_injective
  unfold rank
  omega

theorem isSum_of_plus? (h : t.plus? d = some u) : t.IsSum d u := by
  have ht := t.nanos_lt
  rcases plus?_cases h with ⟨hleap, hwithin, hs, hn⟩ | ⟨hpast, hs, hn⟩
  · constructor
    · unfold clock fraction
      omega
    · unfold IsLeap
      omega
  · constructor
    · unfold clock
      unfold fraction at hs hn ⊢
      omega
    · unfold IsLeap
      omega

theorem IsSum.unique (hu : t.IsSum d u) (hv : t.IsSum d v) : u = v :=
  eq_of_clock_eq (hu.clock_eq.trans hv.clock_eq.symm) (hu.leap_iff.trans hv.leap_iff.symm)

theorem exists_isSum_iff : (∃ u, t.IsSum d u) ↔ t.clock + d.nanos ≤ latest.clock := by
  constructor
  · rintro ⟨u, hu⟩
    exact hu.clock_eq ▸ u.clock_le_latest
  · intro hroom
    obtain ⟨u, hu⟩ := exists_plus?_of_clock_le hroom
    exact ⟨u, isSum_of_plus? hu⟩

theorem plus?_eq_some_iff : t.plus? d = some u ↔ t.IsSum d u := by
  refine ⟨isSum_of_plus?, fun hu => ?_⟩
  obtain ⟨v, hv⟩ := exists_plus?_of_clock_le (exists_isSum_iff.1 ⟨u, hu⟩)
  rw [hv, (isSum_of_plus? hv).unique hu]

theorem plus?_eq_none_iff : t.plus? d = none ↔ latest.clock < t.clock + d.nanos := by
  rw [Option.eq_none_iff_forall_ne_some, ← Int.not_le, ← exists_isSum_iff, not_exists]
  exact forall_congr' fun u => not_congr plus?_eq_some_iff

theorem IsSum.mono (hu : t.IsSum d u) (hv : t.IsSum e v) (h : d ≤ e) : u ≤ v := by
  have hnanos : d.nanos ≤ e.nanos := h
  have htlt := t.nanos_lt
  have hult := u.nanos_lt
  have hvlt := v.nanos_lt
  obtain ⟨huclock, huleap⟩ := hu
  obtain ⟨hvclock, hvleap⟩ := hv
  unfold clock fraction at huclock hvclock
  unfold IsLeap at huleap hvleap
  show u.rank ≤ v.rank
  unfold rank
  omega

theorem isSum_zero (t : Time) : t.IsSum .zero t := by
  have hlt := t.nanos_lt
  refine ⟨(Int.add_zero _).symm, ?_⟩
  unfold IsLeap
  simp only [Duration.zero]
  omega

theorem IsSum.le (hu : t.IsSum d u) : t ≤ u := (isSum_zero t).mono hu (Nat.zero_le _)

theorem clock_plus? (t : Time) (d : Duration) :
    ((t.plus? d).getD latest).clock = min (t.clock + d.nanos) latest.clock := by
  cases hu : t.plus? d with
  | some u =>
      have hclock := (isSum_of_plus? hu).clock_eq
      have hle := u.clock_le_latest
      rw [Option.getD_some]
      omega
  | none =>
      have hlate := plus?_eq_none_iff.1 hu
      rw [Option.getD_none]
      omega

theorem plus?_le_latest (ht : t ≤ latest) (d : Duration) : (t.plus? d).getD latest ≤ latest := by
  cases hu : t.plus? d with
  | some u => exact le_latest_of_plus? ht hu
  | none => exact le_refl latest

theorem le_plus? (ht : t ≤ latest) (d : Duration) : t ≤ (t.plus? d).getD latest := by
  cases hu : t.plus? d with
  | some u => exact (isSum_of_plus? hu).le
  | none => exact ht

theorem plus?_mono (ht : t ≤ latest) (h : d ≤ e) : (t.plus? d).getD latest ≤ (t.plus? e).getD latest := by
  have hnanos : d.nanos ≤ e.nanos := h
  cases hv : t.plus? e with
  | none => exact plus?_le_latest ht d
  | some v =>
      -- the shorter sum is in the calendar too
      have hroom := exists_isSum_iff.1 ⟨v, isSum_of_plus? hv⟩
      obtain ⟨u, hu⟩ : ∃ u, t.IsSum d u := exists_isSum_iff.2 (by omega)
      rw [plus?_eq_some_iff.2 hu]
      exact hu.mono (isSum_of_plus? hv) h

end Outbox.Time
