import Mathlib.Data.Nat.ModEq
import Outbox.Text.Bytes
import Outbox.Text.Hex

namespace Outbox.Text

theorem hexValue?_digitChar : ∀ d < 16, hexValue? (Nat.digitChar d) = some d := by decide

theorem digitChar_plain : ∀ d < 16, Nat.digitChar d ≠ '-' ∧ (Nat.digitChar d).utf8Size = 1 := by decide

theorem hexNumber?_append (ds : List Char) (d : Char) :
    hexNumber? (ds ++ [d]) = (hexNumber? ds).bind fun n => (hexValue? d).map (n * 16 + ·) := by
  simp only [hexNumber?, List.foldl_append, List.foldl_cons, List.foldl_nil]
  cases List.foldl _ (some 0) ds with
  | none => rfl
  | some n => cases hexValue? d <;> rfl

theorem hexNumber?_hexDigits (width n : Nat) : hexNumber? (hexDigits width n) = some (n % 16 ^ width) := by
  induction width generalizing n with
  | zero => simp [hexDigits, hexNumber?, Nat.mod_one]
  | succ width ih =>
      rw [hexDigits, hexNumber?_append, ih, hexValue?_digitChar _ (Nat.mod_lt _ (by decide))]
      simp only [Option.bind_some, Option.map_some, Option.some.injEq]
      rw [Nat.pow_succ', Nat.mod_mul]
      omega

@[simp]
theorem length_hexDigits (width n : Nat) : (hexDigits width n).length = width := by
  induction width generalizing n with
  | zero => rfl
  | succ width ih => simp [hexDigits, ih]

theorem mem_hexDigits {width n : Nat} {c : Char} (h : c ∈ hexDigits width n) : c ≠ '-' ∧ c.utf8Size = 1 := by
  induction width generalizing n with
  | zero => simp [hexDigits] at h
  | succ width ih =>
      rcases List.mem_append.1 h with h | h
      · exact ih h
      · rw [List.mem_singleton.1 h]
        exact digitChar_plain _ (Nat.mod_lt _ (by decide))

theorem mem_digits_of_mem_hexDigits {width n : Nat} {c : Char} (h : c ∈ hexDigits width n) :
    c ∈ "0123456789abcdef".toList := by
  have hdigit : ∀ d < 16, Nat.digitChar d ∈ "0123456789abcdef".toList := by decide
  induction width generalizing n with
  | zero => cases h
  | succ width ih =>
      rcases List.mem_append.1 h with h | h
      · exact ih h
      · rw [List.mem_singleton.1 h]
        exact hdigit _ (Nat.mod_lt _ (by decide))

theorem utf8Length_eq_length {cs : List Char} (h : ∀ c ∈ cs, c.utf8Size = 1) : utf8Length cs = cs.length := by
  have hfold (n : Nat) : cs.foldl (fun n c => n + c.utf8Size) n = n + cs.length := by
    induction cs generalizing n with
    | nil => rfl
    | cons c cs ih =>
        obtain ⟨hc, hcs⟩ := List.forall_mem_cons.1 h
        rw [List.foldl_cons, ih hcs, hc, List.length_cons]
        omega
  rw [utf8Length, hfold, Nat.zero_add]

end Outbox.Text
