import Outbox.Json.Number
import Outbox.Proofs.Text.Decimal

namespace Outbox.Json.Number

open Text

/-- What stops a number: the end of the text, or a character that no number goes on with. -/
def Stops (rest : List Char) : Prop := ∀ c ∈ rest.head?, c.isDigit = false ∧ c ≠ '.' ∧ c ≠ 'e' ∧ c ≠ 'E'

theorem le_foldl_digits (n : Nat) (ds : List Char) :
    n ≤ ds.foldl (fun n d => n * 10 + (d.toNat - '0'.toNat)) n := by
  induction ds generalizing n with
  | nil => exact Nat.le_refl n
  | cons d ds ih =>
      have h := ih (n * 10 + (d.toNat - '0'.toNat))
      rw [List.foldl_cons]
      omega

theorem gather_digits (limit count : Nat) {n : Nat} {ds rest : List Char} (hd : ∀ c ∈ ds, c.isDigit = true)
    (hlt : ds.foldl (fun n d => n * 10 + (d.toNat - '0'.toNat)) n < limit) (hrest : Stops rest) :
    gather limit n count (ds ++ rest) =
      (ds.foldl (fun n d => n * 10 + (d.toNat - '0'.toNat)) n, count + ds.length, rest) := by
  induction ds generalizing n count with
  | nil =>
      cases rest with
      | nil => rfl
      | cons c rest => simp [gather, (hrest c rfl).1]
  | cons d ds ih =>
      obtain ⟨hdigit, hds⟩ := List.forall_mem_cons.1 hd
      rw [List.foldl_cons] at hlt ⊢
      have hstep : n * 10 + (d.toNat - '0'.toNat) < limit := Nat.lt_of_le_of_lt (le_foldl_digits _ ds) hlt
      rw [List.cons_append, gather, if_pos ⟨hdigit, hstep⟩, ih _ hds hlt, List.length_cons]
      simp only [Prod.mk.injEq, and_true, true_and]
      omega

theorem afterInteger_stops {n : Nat} {rest : List Char} (hrest : Stops rest) :
    afterInteger true n 0 false rest = .ok (.integer n, rest) := by
  cases rest with
  | nil => rfl
  | cons c rest =>
      obtain ⟨-, hpoint, he, hE⟩ := hrest c rfl
      simp [afterInteger, isFractional, hpoint, he, hE, integer]

theorem head_toDigits {n : Nat} (h : 0 < n) : ∃ d ds, Nat.toDigits 10 n = d :: ds ∧ d ≠ '0' := by
  induction n using Nat.strongRecOn with
  | ind n ih =>
      by_cases hn : n < 10
      · refine ⟨_, [], Nat.toDigits_of_lt_base hn, ?_⟩
        have hdigit : ∀ d < 10, 0 < d → Nat.digitChar d ≠ '0' := by decide
        exact hdigit n hn h
      · obtain ⟨d, ds, hds, hd⟩ := ih (n / 10) (by omega) (by omega)
        refine ⟨d, ds ++ [Nat.digitChar (n % 10)], ?_, hd⟩
        rw [Nat.toDigits_of_base_le (by decide) (by omega), hds]
        rfl

theorem read_natText {n : Nat} (h : n < significandLimit) {rest : List Char} (hrest : Stops rest) :
    read ((natText n).toList ++ rest) = .ok (.integer n, rest) := by
  rw [natText, String.toList_ofList]
  by_cases hn : n = 0
  · rw [hn, Nat.toDigits_zero]
    cases rest with
    | nil => rfl
    | cons c rest =>
        have hread : read ('0' :: c :: rest) =
            if c.isDigit then .error (.next .number (c :: rest)) else afterInteger true 0 0 false (c :: rest) := rfl
        have hc : ¬ c.isDigit = true := by simp [(hrest c rfl).1]
        rw [List.cons_append, List.nil_append, hread, if_neg hc, afterInteger_stops hrest]
  · obtain ⟨d, ds, hds, hzero⟩ := head_toDigits (Nat.pos_of_ne_zero hn)
    have hdigits (c : Char) (hc : c ∈ Nat.toDigits 10 n) : c.isDigit = true :=
      Nat.isDigit_of_mem_toDigits (by decide) (by decide) hc
    have hd : d.isDigit = true := hdigits d (hds ▸ List.mem_cons_self ..)
    have hsign : d ≠ '-' := by
      rintro rfl
      exact absurd hd (by decide)
    have hvalue : (d :: ds).foldl (fun n d => n * 10 + (d.toNat - '0'.toNat)) 0 = n := by
      rw [← hds]
      exact digitsValue_toDigits n
    have hgather := gather_digits significandLimit 0 (hds ▸ hdigits) (hvalue.symm ▸ h) hrest
    have hexcess : rest.takeWhile Char.isDigit = [] := by
      cases rest with
      | nil => rfl
      | cons c rest => simp [(hrest c rfl).1]
    have hread : read (d :: (ds ++ rest)) = unsigned true (d :: (ds ++ rest)) := by
      rw [read]
      rintro cs ⟨⟩
      exact hsign rfl
    have hunsigned : unsigned true (d :: (ds ++ rest)) = afterInteger true n 0 false rest := by
      rw [List.cons_append, hvalue] at hgather
      rw [unsigned, if_neg (by simp [hd]), hgather]
      · simp [hexcess]
      · exact hzero
    rw [hds, List.cons_append, hread, hunsigned, afterInteger_stops hrest]

end Outbox.Json.Number
