import Mathlib.Data.List.Induction
import Mathlib.Data.List.TakeWhile
import Outbox.Proofs.Calendar
import Outbox.Proofs.Text.Decimal
import Outbox.Time.Text

namespace Outbox.Time

open Text

theorem below?_digits {limit : Nat} {ds : List Char} (h : digitsValue ds < limit) :
    below? limit ds = some (digitsValue ds) := by
  induction ds using List.reverseRecOn with
  | nil => rfl
  | append_singleton ds d ih =>
      rw [digitsValue_append] at h
      rw [below?, List.foldlM_append, ← below?, ih (by omega), digitsValue_append]
      simpa using h

theorem number_digits {ds window rest : List Char} (hne : ds ≠ []) (hw : window.takeWhile Char.isDigit = ds)
    (hlt : digitsValue ds < 0x8000_0000_0000_0000) : number window (ds ++ rest) = .ok (digitsValue ds, rest) := by
  have hcs : (ds ++ rest).isEmpty = false := by simp [hne]
  have hds : ds.isEmpty = false := by simp [hne]
  simp [number, hcs, hw, hds, below?_digits hlt]

theorem trimStart_cons {c : Char} (h : isBlank c = false) (cs : List Char) : trimStart (c :: cs) = c :: cs := by
  simp [trimStart, h]

theorem trimStart_digits {ds : List Char} (hd : ∀ c ∈ ds, c.isDigit = true) (hne : ds ≠ []) (rest : List Char) :
    trimStart (ds ++ rest) = ds ++ rest := by
  cases ds with
  | nil => exact absurd rfl hne
  | cons d ds => exact trimStart_cons (not_blank_of_isDigit (hd d (List.mem_cons_self ..))) _

theorem padded_ne_nil (width n : Nat) : padded (width + 1) n ≠ [] := by
  rw [← List.length_pos_iff, length_padded]
  omega

theorem number_padded (width : Nat) {n : Nat} (h : n < 10 ^ (width + 1)) (hlt : n < 0x8000_0000_0000_0000)
    (rest : List Char) :
    number ((padded (width + 1) n ++ rest).take (width + 1)) (padded (width + 1) n ++ rest) = .ok (n, rest) := by
  have hvalue : digitsValue (padded (width + 1) n) = n := by rw [digitsValue_padded, Nat.mod_eq_of_lt h]
  have hwindow : ((padded (width + 1) n ++ rest).take (width + 1)).takeWhile Char.isDigit = padded (width + 1) n := by
    rw [List.take_append_of_le_length (by simp), List.take_of_length_le (by simp), List.takeWhile_eq_self_iff]
    exact fun c hc => mem_padded hc
  rw [number_digits (padded_ne_nil width n) hwindow (hvalue.symm ▸ hlt), hvalue]

theorem twoDigits_padded {low n high : Nat} (hlow : low ≤ n) (hhigh : n ≤ high) (h : n < 100) (rest : List Char) :
    twoDigits low high (padded 2 n ++ rest) = .ok (n, rest) := by
  have htrim : trimStart (padded 2 n ++ rest) = padded 2 n ++ rest :=
    trimStart_digits (fun c hc => mem_padded hc) (padded_ne_nil 1 n) rest
  simp only [twoDigits, htrim, number_padded 1 h (by omega)]
  simp [bind, Except.bind, hlow, hhigh, pure, Except.pure]

theorem separator_cons {c : Char} (h : isBlank c = false) (rest : List Char) : separator c (c :: rest) = .ok rest := by
  simp [separator, trimStart_cons h]

theorem number_spelled {ds : List Char} {n : Nat} (hd : ∀ c ∈ ds, c.isDigit = true) (hne : ds ≠ [])
    (hvalue : digitsValue ds = n) (hlt : n < 0x8000_0000_0000_0000) (rest : List Char) :
    number (ds ++ '-' :: rest) (ds ++ '-' :: rest) = .ok (n, '-' :: rest) := by
  have hwindow : (ds ++ '-' :: rest).takeWhile Char.isDigit = ds := takeWhile_digits_append hd (by simp)
  rw [number_digits hne hwindow (hvalue.symm ▸ hlt), hvalue]

theorem number_year {n : Nat} (h : n < 0x8000_0000) (rest : List Char) :
    let ds := (if n < 10_000 then zeroPad 4 n else natText n).toList
    number (ds ++ '-' :: rest) (ds ++ '-' :: rest) = .ok (n, '-' :: rest) := by
  by_cases hn : n < 10_000
  · rw [if_pos hn, zeroPad, String.toList_ofList]
    have hvalue : digitsValue (padded 4 n) = n := by rw [digitsValue_padded, Nat.mod_eq_of_lt (show n < 10 ^ 4 from hn)]
    exact number_spelled (fun c hc => mem_padded hc) (padded_ne_nil 3 n) hvalue (by omega) rest
  · rw [if_neg hn, natText, String.toList_ofList]
    exact number_spelled (fun c hc => Nat.isDigit_of_mem_toDigits (by decide) (by decide) hc) Nat.toDigits_ne_nil
      (digitsValue_toDigits n) (by omega) rest

theorem year_unsigned {d : Char} {ds rest : List Char} {n : Nat} (hd : d.isDigit = true)
    (h : number ((d :: ds).take 4) (d :: ds) = .ok (n, rest)) (hn : n < 0x8000_0000) :
    year (d :: ds) = .ok ((n : Int), rest) := by
  simp only [year, trimStart_cons (not_blank_of_isDigit hd)]
  split
  · rename_i he
    obtain ⟨rfl, -⟩ := List.cons.inj he
    exact absurd hd (by decide)
  · rename_i he
    obtain ⟨rfl, -⟩ := List.cons.inj he
    exact absurd hd (by decide)
  · have hrange : -0x8000_0000 ≤ (n : Int) ∧ (n : Int) < 0x8000_0000 := by omega
    have h' : number (d :: ds.take 3) (d :: ds) = .ok (n, rest) := h
    simp [h', bind, Except.bind, Except.map, hrange, pure, Except.pure]

theorem year_signed {cs rest : List Char} {n : Nat} (h : number cs cs = .ok (n, rest)) (hn : n < 0x8000_0000) :
    year ('-' :: cs) = .ok (-(n : Int), rest) ∧ year ('+' :: cs) = .ok ((n : Int), rest) := by
  have hrange : -0x8000_0000 ≤ (n : Int) ∧ (n : Int) < 0x8000_0000 := by omega
  have hrange' : -0x8000_0000 ≤ -(n : Int) ∧ -(n : Int) < 0x8000_0000 := by omega
  constructor
  · rw [year, trimStart_cons (by decide)]
    simp [h, bind, Except.bind, Except.map, hrange', pure, Except.pure]
  · rw [year, trimStart_cons (by decide)]
    simp [h, bind, Except.bind, Except.map, hrange, pure, Except.pure]

theorem year_text {y : Int} (hlow : -0x8000_0000 < y) (hhigh : y < 0x8000_0000) (rest : List Char) :
    year ((yearText y).toList ++ '-' :: rest) = .ok (y, '-' :: rest) := by
  unfold yearText
  split
  · rename_i h
    have hcast : (y.toNat : Int) = y := by omega
    have hnumber := number_padded 3 (n := y.toNat) (by omega) (by omega) ('-' :: rest)
    have hdigit (c : Char) (hc : c ∈ padded 4 y.toNat) : c.isDigit = true := mem_padded hc
    rw [zeroPad, String.toList_ofList]
    cases hds : padded 4 y.toNat with
    | nil => exact absurd hds (padded_ne_nil 3 _)
    | cons d ds =>
        rw [hds] at hnumber hdigit
        rw [List.cons_append] at hnumber ⊢
        rw [year_unsigned (hdigit d (List.mem_cons_self ..)) hnumber (by omega), hcast]
  · have hnumber := number_year (n := y.natAbs) (by omega) rest
    obtain ⟨hminus, hplus⟩ := year_signed hnumber (by omega)
    by_cases hneg : y < 0
    · have hcast : -(y.natAbs : Int) = y := by omega
      rw [hcast] at hminus
      simpa [hneg] using hminus
    · have hcast : (y.natAbs : Int) = y := by omega
      rw [hcast] at hplus
      simpa [hneg] using hplus

theorem fraction?_places (width : Nat) {n : Nat} (h : n < 10 ^ (width + 1)) (hwidth : width < 9) (rest : List Char) :
    fraction? ('.' :: (padded (width + 1) n ++ 'Z' :: rest)) = .ok (n * 10 ^ (8 - width), 'Z' :: rest) := by
  have hvalue : digitsValue (padded (width + 1) n) = n := by rw [digitsValue_padded, Nat.mod_eq_of_lt h]
  have hdigits (c : Char) (hc : c ∈ padded (width + 1) n) : c.isDigit = true := mem_padded hc
  have hwindow : ((padded (width + 1) n ++ 'Z' :: rest).take 9).takeWhile Char.isDigit = padded (width + 1) n := by
    rw [List.take_append, List.take_of_length_le (by simp; omega), length_padded]
    refine takeWhile_digits_append hdigits ?_
    cases 9 - (width + 1) with
    | zero => simp
    | succ k => simp
  have hlt : n < 0x8000_0000_0000_0000 := by
    have hpow : 10 ^ (width + 1) ≤ 10 ^ 9 := Nat.pow_le_pow_right (by decide) (by omega)
    omega
  have hwindow' : (padded (width + 1) n).takeWhile Char.isDigit = padded (width + 1) n :=
    List.takeWhile_eq_self_iff.2 hdigits
  have hrest : ('Z' :: rest).dropWhile Char.isDigit = 'Z' :: rest := rfl
  simp only [fraction?, hwindow]
  rw [number_digits (padded_ne_nil width n) hwindow' (hvalue.symm ▸ hlt), hvalue]
  simp [bind, Except.bind, pure, Except.pure, hrest]

theorem fraction?_text {n : Nat} (h : n < 1_000_000_000) (rest : List Char) :
    fraction? ((fractionText n).toList ++ 'Z' :: rest) = .ok (n, 'Z' :: rest) := by
  unfold fractionText
  split
  · rename_i hzero
    rw [hzero]
    rfl
  split
  · rename_i hmillis
    have hplaces := fraction?_places 2 (n := n / 1_000_000) (by omega) (by omega) rest
    rw [show n / 1_000_000 * 10 ^ (8 - 2) = n by omega] at hplaces
    simpa [zeroPad] using hplaces
  split
  · rename_i hmicros
    have hplaces := fraction?_places 5 (n := n / 1_000) (by omega) (by omega) rest
    rw [show n / 1_000 * 10 ^ (8 - 5) = n by omega] at hplaces
    simpa [zeroPad] using hplaces
  · have hplaces := fraction?_places 8 (n := n) (by omega) (by omega) rest
    rw [show n * 10 ^ (8 - 8) = n by omega] at hplaces
    simpa [zeroPad] using hplaces

theorem date_year_bounds (t : Time) : -0x8000_0000 < t.date.year ∧ t.date.year < 0x8000_0000 := by
  have hproper := (Date.ofDays_spec (t.seconds / 86400)).1
  have hlow := hproper.year_ge
  have hhigh := hproper.year_le
  have hmin := t.seconds_ge
  have hmax := t.seconds_le
  change -0x8000_0000 < (Date.ofDays (t.seconds / 86400)).year ∧ (Date.ofDays (t.seconds / 86400)).year < 0x8000_0000
  omega

theorem of?_parts (t : Time) : of? t.seconds t.nanos = some t :=
  dif_pos ⟨⟨t.seconds_ge, t.seconds_le⟩, t.nanos_lt, t.leap⟩

theorem assemble_parts (t : Time) : assemble t.date t.hour t.minute t.second t.fraction 0 = .ok t := by
  have hmin := t.seconds_ge
  have hmax := t.seconds_le
  have hdays : t.date.toDays = t.seconds / 86400 := Date.toDays_ofDays _
  have hearliest : earliest.seconds = -8334601228800 := rfl
  have hlatest : latest.seconds = 8210266876799 := rfl
  have hrange : ¬ (¬ t.date.Exists ∨ t.date.toDays * 86400 < earliest.seconds ∨
      latest.seconds < t.date.toDays * 86400 ∨ 86400 ≤ (0 : Int).natAbs) := by
    rw [hdays, hearliest, hlatest, not_or, not_not]
    exact ⟨Date.exists_ofDays _, by omega⟩
  have hclock : (if t.second = 60 then 59 else t.second) = t.secondOfDay % 60 ∧
      (if t.second = 60 then t.fraction + 1_000_000_000 else t.fraction) = t.nanos := by
    have hnanos := t.nanos_lt
    have hleap := t.leap
    unfold second fraction secondOfDay
    split <;> omega
  have hseconds :
      t.date.toDays * 86400 + t.hour * 3600 + t.minute * 60 + (t.secondOfDay % 60 : Nat) - 0 = t.seconds := by
    rw [hdays]
    unfold hour minute secondOfDay
    omega
  unfold assemble
  dsimp only
  rw [if_neg hrange, hclock.1, hclock.2, hseconds, of?_parts]

theorem read_text (t : Time) : read t.text = .ok t := by
  have hproper := (Date.ofDays_spec (t.seconds / 86400)).1
  obtain ⟨hlow, hhigh⟩ := date_year_bounds t
  have hsecondOfDay : t.secondOfDay < 86400 := by
    unfold secondOfDay
    omega
  have hhour : t.hour ≤ 23 := by
    unfold hour
    omega
  have hminute : t.minute ≤ 59 := by
    unfold minute
    omega
  have hsecond : t.second ≤ 60 := by
    have hnanos := t.nanos_lt
    unfold second
    omega
  have hfraction : t.fraction < 1_000_000_000 := by
    unfold fraction
    omega
  have htext : t.text.toList = (yearText t.date.year).toList ++ '-' :: (padded 2 t.date.month ++ '-' ::
      (padded 2 t.date.day ++ 'T' :: (padded 2 t.hour ++ ':' :: (padded 2 t.minute ++ ':' :: (padded 2 t.second ++
        ((fractionText t.fraction).toList ++ ['Z'])))))) := by
    simp [text, dateText, clockText, zeroPad]
  have hhyphen (rest : List Char) : separator '-' ('-' :: rest) = .ok rest := separator_cons (by decide) rest
  have hcolon (rest : List Char) : separator ':' (':' :: rest) = .ok rest := separator_cons (by decide) rest
  have hmonth (rest : List Char) : twoDigits 1 12 (padded 2 t.date.month ++ rest) = .ok (t.date.month, rest) :=
    twoDigits_padded hproper.month_ge hproper.month_le (Nat.lt_of_le_of_lt hproper.month_le (by decide)) rest
  have hday (rest : List Char) : twoDigits 1 31 (padded 2 t.date.day ++ rest) = .ok (t.date.day, rest) :=
    twoDigits_padded hproper.day_ge hproper.day_le (Nat.lt_of_le_of_lt hproper.day_le (by decide)) rest
  have hmark (rest : List Char) : dateTimeMark ('T' :: rest) = .ok rest := rfl
  have hzone : offset ['Z'] = .ok (0, []) := rfl
  have hend : trimStart [] = [] := rfl
  simp only [read, htext, readChars, year_text hlow hhigh, hhyphen, hmonth, hday, hmark,
    twoDigits_padded (Nat.zero_le _) hhour (by omega), hcolon, twoDigits_padded (Nat.zero_le _) hminute (by omega),
    twoDigits_padded (Nat.zero_le _) hsecond (by omega), fraction?_text hfraction, hzone, hend, bind, Except.bind,
    if_true]
  exact assemble_parts t

end Outbox.Time
