import Outbox.Calendar

namespace Outbox.Date

theorem era_bounds {d y : Int} (h0 : 0 ≤ d) (h1 : d < 146097)
    (hy : y = (d - d / 1460 + d / 36524 - d / 146096) / 365) :
    0 ≤ y ∧ y ≤ 399 ∧ 0 ≤ d - (y * 365 + y / 4 - y / 100) ∧ d - (y * 365 + y / 4 - y / 100) ≤ 365 := by
  -- The day is in century `k`, of whose spans of four years it is in span `a`, as day `z` of 1461.
  obtain ⟨k, hk⟩ : ∃ k, k = d / 36524 - d / 146096 := ⟨_, rfl⟩
  have hk0 : 0 ≤ k := by omega
  have hk3 : k ≤ 3 := by omega
  obtain ⟨x, hx⟩ : ∃ x, x = d - 36524 * k := ⟨_, rfl⟩
  have hx0 : 0 ≤ x := by omega
  have hx1 : x ≤ 36524 := by omega
  obtain ⟨a, ha⟩ : ∃ a, a = x / 1461 := ⟨_, rfl⟩
  obtain ⟨z, hz⟩ : ∃ z, z = x % 1461 := ⟨_, rfl⟩
  have hxz : x = 1461 * a + z := by omega
  -- The last day of a span of four years may fall into the next 1460 days.
  obtain ⟨e, he⟩ : ∃ e, e = (24 * k + a + z) / 1460 := ⟨_, rfl⟩
  have he0 : 0 ≤ e := by omega
  have he1 : e ≤ 1 := by omega
  have hspans : d / 1460 = 25 * k + a + e := by omega
  have hyear : y = 100 * k + 4 * a + (z - e) / 365 := by omega
  have hfours : y / 4 = 25 * k + a := by omega
  have hcenturies : y / 100 = k := by omega
  refine ⟨?_, ?_, ?_, ?_⟩ <;> omega

/-- Years that start in March have twelve months of at most 31 days. -/
theorem month_bounds {d m : Int} (h0 : 0 ≤ d) (h1 : d ≤ 365) (hm : m = (5 * d + 2) / 153) :
    0 ≤ m ∧ m ≤ 11 ∧ 0 ≤ d - (153 * m + 2) / 5 ∧ d - (153 * m + 2) / 5 ≤ 30 := by
  omega

/-- A date whose month and day are within their bounds and whose year is one of an era, or starts the next. -/
structure IsProper (d : Date) (era : Int) : Prop where
  month_ge : 1 ≤ d.month
  month_le : d.month ≤ 12
  day_ge : 1 ≤ d.day
  day_le : d.day ≤ 31
  year_ge : era * 400 ≤ d.year
  year_le : d.year ≤ era * 400 + 400

theorem ofDays_spec (n : Int) : (ofDays n).IsProper ((n + 719468) / 146097) ∧ (ofDays n).toDays = n := by
  obtain ⟨era, hera⟩ : ∃ era, era = (n + 719468) / 146097 := ⟨_, rfl⟩
  obtain ⟨d, hd⟩ : ∃ d, d = n + 719468 - era * 146097 := ⟨_, rfl⟩
  obtain ⟨y, hy⟩ : ∃ y, y = (d - d / 1460 + d / 36524 - d / 146096) / 365 := ⟨_, rfl⟩
  obtain ⟨x, hx⟩ : ∃ x, x = d - (y * 365 + y / 4 - y / 100) := ⟨_, rfl⟩
  obtain ⟨m, hm⟩ : ∃ m, m = (5 * x + 2) / 153 := ⟨_, rfl⟩
  have hdate : ofDays n =
      if m < 10 then ⟨y + era * 400, (m + 3).toNat, (x - (153 * m + 2) / 5 + 1).toNat⟩
      else ⟨y + era * 400 + 1, (m - 9).toNat, (x - (153 * m + 2) / 5 + 1).toNat⟩ := by
    rw [hm, hx, hy, hd, hera]
    rfl
  obtain ⟨hy0, hy1, hday0, hday1⟩ := era_bounds (by omega) (by omega) hy
  rw [← hx] at hday0 hday1
  obtain ⟨hm0, hm1, hx0, hx1⟩ := month_bounds hday0 hday1 hm
  have hcycle : (y + era * 400) / 400 = era := by omega
  have hday : ((x - (153 * m + 2) / 5 + 1).toNat : Int) = x - (153 * m + 2) / 5 + 1 := by omega
  rw [hdate, ← hera]
  by_cases hlate : m < 10
  · rw [if_pos hlate]
    refine ⟨?_, ?_⟩
    · constructor <;> dsimp only <;> omega
    · have hmonth : ((m + 3).toNat : Int) - 3 = m := by omega
      dsimp only [toDays]
      rw [if_neg (by omega), if_neg (by omega), hmonth, hday, hcycle, Int.add_sub_cancel]
      omega
  · rw [if_neg hlate]
    refine ⟨?_, ?_⟩
    · constructor <;> dsimp only <;> omega
    · have hmonth : ((m - 9).toNat : Int) + 9 = m := by omega
      dsimp only [toDays]
      rw [if_pos (by omega), if_pos (by omega), hmonth, hday, Int.add_sub_cancel, hcycle, Int.add_sub_cancel]
      omega

theorem toDays_ofDays (n : Int) : (ofDays n).toDays = n := (ofDays_spec n).2

theorem exists_ofDays (n : Int) : (ofDays n).Exists := by
  rw [Exists, toDays_ofDays]

end Outbox.Date
