import Outbox.Json.Chars
import Outbox.Json.Value
import Outbox.Proofs.Text.Hex

namespace Outbox.Json

theorem hexEscape_hexDigits (n : Nat) (rest : List Char) :
    hexEscape (Text.hexDigits 4 n ++ rest) = .ok (n % 0x10000, rest) := by
  have h := Text.hexNumber?_hexDigits 4 n
  simp only [Text.hexDigits, List.nil_append, List.cons_append] at h ⊢
  simp only [hexEscape, h]
  rfl

theorem escaped_control {c : Char} (h : c.toNat < 0x20) (rest : List Char) :
    escaped ('u' :: Text.hexDigits 4 c.toNat ++ rest) = .ok (c, rest) := by
  have hmod : c.toNat % 0x10000 = c.toNat := Nat.mod_eq_of_lt (by omega)
  have hlow : isLowSurrogate c.toNat = false := by simp [isLowSurrogate]; omega
  have hhigh : isHighSurrogate c.toNat = false := by simp [isHighSurrogate]; omega
  simp [escaped, hexEscape_hexDigits, hmod, hlow, hhigh, bind, Except.bind, pure, Except.pure]

theorem chars_escape (c x : Char) (fuel done rest : List Char) :
    chars (x :: fuel) done (escape c ++ rest) = chars fuel (c :: done) rest := by
  unfold escape
  split
  · subst_vars; rfl
  split
  · subst_vars; rfl
  split
  · subst_vars; rfl
  split
  · subst_vars; rfl
  split
  · subst_vars; rfl
  split
  · subst_vars; rfl
  split
  · subst_vars; rfl
  split
  · rename_i h
    rw [List.cons_append, chars, escaped_control h]
  · rename_i hquote hslash _ _ _ _ _ hcontrol
    rw [List.singleton_append, chars, if_neg hcontrol]
    · exact hquote
    · exact hslash

theorem chars_escapes (s fuel done rest : List Char) (h : s.length < fuel.length) :
    chars fuel done (s.flatMap escape ++ '"' :: rest) = .ok (done.reverse ++ s, rest) := by
  induction s generalizing fuel done with
  | nil =>
      cases fuel with
      | nil => simp at h
      | cons x fuel => simp [chars]
  | cons c s ih =>
      cases fuel with
      | nil => simp at h
      | cons x fuel =>
          rw [List.flatMap_cons, List.append_assoc, chars_escape, ih _ _ (by simpa using h)]
          simp

theorem length_le_escapes (s : List Char) : s.length ≤ (s.flatMap escape).length := by
  induction s with
  | nil => simp
  | cons c s ih =>
      have hc : 0 < (escape c).length := by
        unfold escape
        repeat' split
        all_goals simp
      rw [List.flatMap_cons, List.length_append, List.length_cons]
      omega

theorem stringBody_escapes (s : String) (rest : List Char) :
    stringBody (s.toList.flatMap escape ++ '"' :: rest) = .ok (s, rest) := by
  have hlen := length_le_escapes s.toList
  rw [stringBody, chars_escapes _ _ _ _ (by rw [List.length_append, List.length_cons]; omega)]
  simp [Except.map]

theorem toList_quote (s : String) : (quote s).toList = '"' :: (s.toList.flatMap escape ++ ['"']) := by
  simp [quote]

end Outbox.Json
