import Outbox.Time

namespace Outbox

namespace Time

theorem lt_iff (a b : Time) : a < b ↔ a.rank < b.rank := Iff.rfl

theorem lt_of_lt_of_le {a b c : Time} (hab : a < b) (hbc : b ≤ c) : a < c := Int.lt_of_lt_of_le hab hbc

theorem lt_of_le_of_lt {a b c : Time} (hab : a ≤ b) (hbc : b < c) : a < c := Int.lt_of_le_of_lt hab hbc

theorem le_of_lt {a b : Time} (h : a < b) : a ≤ b := Int.le_of_lt h

theorem le_refl (a : Time) : a ≤ a := Int.le_refl a.rank

theorem not_le {a b : Time} : ¬ a ≤ b ↔ b < a := Int.not_le

theorem not_lt {a b : Time} : ¬ a < b ↔ b ≤ a := Int.not_lt

theorem all_lt_eq (x : Option Time) (now : Time) :
    (x.all fun t => decide (t < now)) = !x.any fun t => decide (now ≤ t) := by
  cases x with
  | none => rfl
  | some t =>
      rw [Option.all_some, Option.any_some, ← decide_not]
      exact decide_eq_decide.2 not_le.symm

theorem all_le_eq (x : Option Time) (now : Time) :
    (x.all fun t => decide (t ≤ now)) = !x.any fun t => decide (now < t) := by
  cases x with
  | none => rfl
  | some t =>
      rw [Option.all_some, Option.any_some, ← decide_not]
      exact decide_eq_decide.2 not_lt.symm

instance : Max Time := maxOfLe

instance : Min Time := minOfLe

theorem lt_max_iff {a b c : Time} : a < max b c ↔ a < b ∨ a < c := by
  have hmax : max b c = if b ≤ c then c else b := rfl
  rw [hmax]
  split
  · rename_i hle
    exact ⟨.inr, fun h => h.elim (fun hab => lt_of_lt_of_le hab hle) id⟩
  · rename_i hlt
    exact ⟨.inl, fun h => h.elim id fun hac => lt_of_lt_of_le hac (le_of_lt (not_le.1 hlt))⟩

theorem of?_eq_some {s : Int} {n : Nat} {t : Time} (h : of? s n = some t) : t.seconds = s ∧ t.nanos = n := by
  simp only [of?, Option.dite_none_right_eq_some] at h
  obtain ⟨_, h⟩ := h
  cases h
  exact ⟨rfl, rfl⟩

theorem settle?_eq_some {s n : Int} {t : Time} (h : settle? s n = some t) :
    t.seconds = s + n / 1_000_000_000 ∧ (t.nanos : Int) = n % 1_000_000_000 := by
  obtain ⟨hs, hn⟩ := of?_eq_some h
  omega

/-- A sum is in the leap second that it began in, or as many seconds are carried as if there were no such second. -/
theorem plus?_cases {t u : Time} {d : Duration} (h : t.plus? d = some u) :
    (1_000_000_000 ≤ t.nanos ∧ t.nanos + d.nanos < 2_000_000_000 ∧
      u.seconds = t.seconds ∧ u.nanos = t.nanos + d.nanos) ∨
    (1_000_000_000 ≤ t.nanos → 2_000_000_000 ≤ t.nanos + d.nanos) ∧
      u.seconds = t.seconds + (t.fraction + d.nanos) / 1_000_000_000 ∧
      u.nanos = (t.fraction + d.nanos) % 1_000_000_000 := by
  have ht := t.nanos_lt
  unfold plus? shift? at h
  unfold fraction
  split at h
  · obtain ⟨hs, hn⟩ := settle?_eq_some h
    omega
  · split at h
    · obtain ⟨hs, hn⟩ := settle?_eq_some h
      omega
    · split at h
      · omega
      · obtain ⟨hs, hn⟩ := of?_eq_some h
        omega

theorem lt_plus? {t u : Time} {d : Duration} (hd : d ≠ .zero) (h : t.plus? d = some u) : t < u := by
  have hne : d.nanos ≠ 0 := fun he => hd (by cases d; simp_all [Duration.zero])
  have ht := t.nanos_lt
  rw [lt_iff, rank, rank]
  rcases plus?_cases h with ⟨-, -, hs, hn⟩ | ⟨hleap, hs, hn⟩
  · omega
  · unfold fraction at hs hn
    omega

/-- Nanoseconds since 1970 by a clock that has no leap seconds: it shows the second before one a second time. -/
def clock (t : Time) : Int := t.seconds * 1_000_000_000 + t.fraction

theorem exists_settle? {s n : Int} (hlow : -8334601228800 ≤ s + n / 1_000_000_000)
    (hhigh : s + n / 1_000_000_000 ≤ 8210266876799) : ∃ t, settle? s n = some t := by
  have hrange : (-8334601228800 ≤ s + n / 1_000_000_000 ∧ s + n / 1_000_000_000 ≤ 8210266876799) ∧
      (n % 1_000_000_000).toNat < 2_000_000_000 ∧
        (1_000_000_000 ≤ (n % 1_000_000_000).toNat → (s + n / 1_000_000_000) % 60 = 59) := by
    omega
  exact ⟨_, dif_pos hrange⟩

theorem clock_le_latest (t : Time) : t.clock ≤ latest.clock := by
  have hlatest : latest.clock = 8210266876799999999999 := by decide
  have hhigh := t.seconds_le
  rw [hlatest, clock, fraction]
  omega

theorem le_latest_of_plus? {t u : Time} {d : Duration} (ht : t ≤ latest) (h : t.plus? d = some u) : u ≤ latest := by
  have hlatest : latest.rank = 16420533753598999999999 := by decide
  have huhigh := u.seconds_le
  have hle : t.seconds * 2_000_000_000 + t.nanos ≤ 16420533753598999999999 := hlatest ▸ ht
  show u.rank ≤ latest.rank
  rw [hlatest, rank]
  rcases plus?_cases h with ⟨hleap, hwithin, hs, hn⟩ | ⟨-, hs, hn⟩
  · have hhigh := t.seconds_le
    omega
  · omega

theorem exists_plus?_of_clock_le {t : Time} {d : Duration} (hroom : t.clock + d.nanos ≤ latest.clock) :
    ∃ u, t.plus? d = some u := by
  have hlatest : latest.clock = 8210266876799999999999 := by decide
  have hlow := t.seconds_ge
  have hnanos := t.nanos_lt
  rw [hlatest, clock, fraction] at hroom
  unfold plus? shift?
  split
  · exact exists_settle? (by omega) (by omega)
  · split
    · exact exists_settle? (by omega) (by omega)
    · split
      · omega
      · have hleap := t.leap
        have hhigh := t.seconds_le
        have hrange : (-8334601228800 ≤ t.seconds ∧ t.seconds ≤ 8210266876799) ∧
            (t.nanos + (d.nanos : Int)).toNat < 2_000_000_000 ∧
              (1_000_000_000 ≤ (t.nanos + (d.nanos : Int)).toNat → t.seconds % 60 = 59) := by
          omega
        exact ⟨_, dif_pos hrange⟩

/-- Some seconds after a moment, as long as the calendar goes on. -/
def later (t : Time) (seconds : UInt64) : Time := (t.plus? (.ofSeconds seconds)).getD .latest

end Time

end Outbox
