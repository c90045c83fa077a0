import Outbox.Id
import Outbox.Proofs.Text.Hex

namespace Outbox.Uuid

open Text

theorem filter_hyphenated {ds : List Char} (h : ∀ c ∈ ds, c ≠ '-') : (hyphenated ds).filter (· ≠ '-') = ds := by
  have hall (part : List Char) (hp : ∀ c ∈ part, c ∈ ds) : part.filter (· ≠ '-') = part := by
    rw [List.filter_eq_self]
    exact fun c hc => by simpa using h c (hp c hc)
  have hgroup (a b : Nat) : ((ds.drop a).take b).filter (· ≠ '-') = (ds.drop a).take b :=
    hall _ fun _ hc => List.mem_of_mem_drop (List.mem_of_mem_take hc)
  have hcut (a b : Nat) : (ds.drop a).take b ++ ds.drop (a + b) = ds.drop a := by
    rw [← List.drop_drop, List.take_append_drop]
  have hhyphen (part : List Char) : ('-' :: part).filter (· ≠ '-') = part.filter (· ≠ '-') :=
    List.filter_cons_of_neg (by simp)
  simp only [hyphenated, List.filter_append, hhyphen, hgroup, hall (ds.drop 20) fun _ => List.mem_of_mem_drop,
    hall (ds.take 8) fun _ => List.mem_of_mem_take, List.append_assoc]
  rw [hcut 16 4, hcut 12 4, hcut 8 4, List.take_append_drop]

theorem hexNumber?_simpleChars (u : Uuid) : hexNumber? u.simpleChars = some u.value :=
  (hexNumber?_hexDigits 32 u.value).trans (congrArg some (Nat.mod_eq_of_lt u.value_lt))

theorem ofSimple?_simpleChars (u : Uuid) : ofSimple? u.simpleChars = some u := by
  have hlength : u.simpleChars.length = 32 := length_hexDigits _ _
  rw [ofSimple?, if_pos hlength, hexNumber?_simpleChars, Option.bind_some, of?, dif_pos u.value_lt]

/-- A text of 32 digits, none of them a capital letter, that say an id. -/
structure IsWritten (u : Uuid) (s : String) : Prop where
  length : s.toList.length = 32
  digit : ∀ c ∈ s.toList, c ∈ "0123456789abcdef".toList
  value : hexNumber? s.toList = some u.value

theorem isWritten_simple (u : Uuid) : u.IsWritten u.simple := by
  have hchars : u.simple.toList = u.simpleChars := String.toList_ofList
  constructor
  · rw [hchars]
    exact length_hexDigits 32 u.value
  · rw [hchars]
    exact fun c hc => mem_digits_of_mem_hexDigits hc
  · rw [hchars, hexNumber?_simpleChars]

theorem length_hyphenated {ds : List Char} (h : ds.length = 32) : (hyphenated ds).length = 36 := by
  simp [hyphenated, h]

theorem plain_hyphenated {ds : List Char} (h : ∀ c ∈ ds, c.utf8Size = 1) : ∀ c ∈ hyphenated ds, c.utf8Size = 1 := by
  intro c hc
  simp only [hyphenated, List.mem_append, List.mem_cons] at hc
  have hgroup (a b : Nat) (hc : c ∈ (ds.drop a).take b) : c.utf8Size = 1 :=
    h c (List.mem_of_mem_drop (List.mem_of_mem_take hc))
  rcases hc with (((hc | rfl | hc) | rfl | hc) | rfl | hc) | rfl | hc
  · exact h c (List.mem_of_mem_take hc)
  · rfl
  · exact hgroup _ _ hc
  · rfl
  · exact hgroup _ _ hc
  · rfl
  · exact hgroup _ _ hc
  · rfl
  · exact h c (List.mem_of_mem_drop hc)

theorem read_text (u : Uuid) : read u.text = .ok u := by
  have hlength : (hyphenated u.simpleChars).length = 36 := length_hyphenated (length_hexDigits _ _)
  have hplain := plain_hyphenated fun c (hc : c ∈ u.simpleChars) => (mem_hexDigits hc).2
  have hgroups : groups? (hyphenated u.simpleChars) = some (hyphenated u.simpleChars) := by
    simp [groups?, utf8Length_eq_length hplain, hlength]
  have hsimple : ofSimple? (hyphenated u.simpleChars) = none := by
    simp [ofSimple?, hlength]
  have hdigits := filter_hyphenated fun c (hc : c ∈ u.simpleChars) => (mem_hexDigits hc).1
  have hread : ofChars? (hyphenated u.simpleChars) = some u := by
    rw [ofChars?, hsimple, hgroups]
    simp only [Option.bind_some, ofHyphenated?, hdigits, if_true, ofSimple?_simpleChars]
    rfl
  simp [read, text, hread]

theorem simple_injective : Function.Injective simple := by
  intro u v h
  have hu := ofSimple?_simpleChars u
  rw [String.ofList_injective h, ofSimple?_simpleChars] at hu
  exact (Option.some.inj hu).symm

end Outbox.Uuid

namespace Outbox.AccountId

theorem simple_injective : Function.Injective simple := by
  intro a b h
  exact congrArg AccountId.mk (Uuid.simple_injective h)

end Outbox.AccountId
