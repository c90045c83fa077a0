import Mathlib.Algebra.Order.Ring.Nat
import Outbox.Text.Blank
import Outbox.Time.Reader

namespace Outbox.Text

open Time

theorem digitChar_digit (n : Nat) : (digitChar n).isDigit = true ∧ (digitChar n).toNat - '0'.toNat = n % 10 := by
  have h : ∀ d < 10, (Char.ofNat ('0'.toNat + d)).isDigit = true ∧
      (Char.ofNat ('0'.toNat + d)).toNat - '0'.toNat = d := by
    decide
  exact h _ (Nat.mod_lt _ (by decide))

theorem value_digitChar : ∀ d < 10, (Nat.digitChar d).toNat - '0'.toNat = d := by decide

theorem not_blank_of_isDigit {c : Char} (h : c.isDigit = true) : isBlank c = false := by
  obtain ⟨hlow, hhigh⟩ := Char.isDigit_iff_toNat.1 h
  have hzero : '0'.toNat = 48 := rfl
  have hnine : '9'.toNat = 57 := rfl
  simp [isBlank]
  omega

theorem digitsValue_append (ds : List Char) (d : Char) :
    digitsValue (ds ++ [d]) = digitsValue ds * 10 + (d.toNat - '0'.toNat) := by
  simp [digitsValue]

@[simp]
theorem length_padded (width n : Nat) : (padded width n).length = width := by
  induction width generalizing n with
  | zero => rfl
  | succ width ih => simp [padded, ih]

theorem mem_padded {width n : Nat} {c : Char} (h : c ∈ padded width n) : c.isDigit = true := by
  induction width generalizing n with
  | zero => cases h
  | succ width ih =>
      rcases List.mem_append.1 h with h | h
      · exact ih h
      · rw [List.mem_singleton.1 h]
        exact (digitChar_digit n).1

theorem digitsValue_padded (width n : Nat) : digitsValue (padded width n) = n % 10 ^ width := by
  induction width generalizing n with
  | zero => simp [padded, digitsValue, Nat.mod_one]
  | succ width ih =>
      rw [padded, digitsValue_append, ih, (digitChar_digit n).2, Nat.pow_succ', Nat.mod_mul]
      omega

theorem digitsValue_toDigits (n : Nat) : digitsValue (Nat.toDigits 10 n) = n := by
  induction n using Nat.strongRecOn with
  | ind n ih =>
      by_cases h : n < 10
      · rw [Nat.toDigits_of_lt_base h]
        simpa [digitsValue] using value_digitChar n h
      · rw [Nat.toDigits_of_base_le (by decide) (by omega), digitsValue_append, ih _ (by omega),
          value_digitChar _ (Nat.mod_lt _ (by decide))]
        omega

theorem natText_cons (n : Nat) : ∃ d ds, (natText n).toList = d :: ds ∧ d.isDigit = true := by
  cases hds : (natText n).toList with
  | nil => simp [natText] at hds
  | cons d ds =>
      refine ⟨d, ds, rfl, Nat.isDigit_of_mem_toDigits (b := 10) (n := n) (by decide) (by decide) ?_⟩
      rw [← String.toList_ofList (l := Nat.toDigits 10 n)]
      exact hds ▸ List.mem_cons_self ..

theorem takeWhile_digits_append {ds rest : List Char} (hd : ∀ c ∈ ds, c.isDigit = true)
    (hrest : ∀ c ∈ rest.head?, c.isDigit = false) : (ds ++ rest).takeWhile Char.isDigit = ds := by
  rw [List.takeWhile_append_of_pos hd]
  cases rest with
  | nil => simp
  | cons c rest => rw [List.takeWhile_cons_of_neg (by simp [hrest c rfl]), List.append_nil]

end Outbox.Text
