import Mathlib.Data.List.Nodup
import Outbox.Table

namespace Outbox.Table

variable {α : Type} [Keyed α]

theorem find?_place (a : α) (bs : List α) (k : Nat) :
    (place a bs).find? (key · == k) = if key a = k then some a else bs.find? (key · == k) := by
  induction bs with
  | nil => by_cases hk : key a = k <;> simp [place, hk]
  | cons b bs ih =>
      simp only [place]
      split
      · by_cases hk : key a = k <;> simp [hk]
      · split
        · rename_i hab
          by_cases hk : key a = k
          · simp [hk]
          · simp [hk, hab ▸ hk]
        · rename_i hlt hne
          by_cases hb : key b = k
          · have hk : key a ≠ k := fun h => hne (h.trans hb.symm)
            simp [hb, hk]
          · simp [hb, ih]

@[simp]
theorem get?_empty (k : Nat) : (empty : Table α).get? k = none := rfl

@[simp]
theorem get?_insert (t : Table α) (a : α) (k : Nat) :
    (t.insert a).get? k = if key a = k then some a else t.get? k :=
  find?_place a t.entries k

theorem insertAll_append (t : Table α) (as bs : List α) : t.insertAll (as ++ bs) = (t.insertAll as).insertAll bs :=
  List.foldl_append

theorem get?_insertAll {as : List α} (has : (as.map key).Nodup) (t : Table α) (k : Nat) :
    (t.insertAll as).get? k = (as.find? (key · == k)).or (t.get? k) := by
  induction as generalizing t with
  | nil => rfl
  | cons a as ih =>
      obtain ⟨ha, has⟩ := List.nodup_cons.1 has
      rw [insertAll, List.foldl_cons, ← insertAll, ih has, get?_insert]
      by_cases hk : key a = k
      · have hnone : as.find? (key · == k) = none := by
          rw [List.find?_eq_none]
          intro b hb he
          exact ha (List.mem_map.2 ⟨b, hb, (beq_iff_eq.1 he).trans hk.symm⟩)
        simp [hnone, hk]
      · simp [hk]

theorem key_of_get? {t : Table α} {k : Nat} {a : α} (h : t.get? k = some a) : key a = k := by
  simpa using List.find?_some h

theorem mem_of_get? {t : Table α} {k : Nat} {a : α} (h : t.get? k = some a) : a ∈ t.entries :=
  List.mem_of_find?_eq_some h

theorem get?_of_mem {t : Table α} {a : α} (h : a ∈ t.entries) : t.get? (key a) = some a := by
  obtain ⟨entries, hs⟩ := t
  induction entries with
  | nil => simp at h
  | cons b bs ih =>
      obtain ⟨hb, hbs⟩ := List.pairwise_cons.1 hs
      rcases List.mem_cons.1 h with rfl | h
      · simp [get?]
      · have hne : key b ≠ key a := Nat.ne_of_lt (hb a h)
        simpa [get?, hne] using ih hbs h

theorem nodup_keys (t : Table α) : (t.entries.map key).Nodup := by
  rw [List.nodup_iff_pairwise_ne, List.pairwise_map]
  exact t.ascending.imp fun h => Nat.ne_of_lt h

theorem get?_eq_some_iff {t : Table α} {k : Nat} {a : α} :
    t.get? k = some a ↔ a ∈ t.entries ∧ key a = k := by
  constructor
  · exact fun h => ⟨mem_of_get? h, key_of_get? h⟩
  · rintro ⟨h, rfl⟩
    exact get?_of_mem h

theorem ext_mem {t u : Table α} (h : ∀ a, a ∈ t.entries ↔ a ∈ u.entries) : t = u := by
  obtain ⟨as, has⟩ := t
  obtain ⟨bs, hbs⟩ := u
  have hasc {l : List α} (hl : l.Pairwise (key · < key ·)) : l.Nodup := hl.imp fun hlt he => by simp [he] at hlt
  have hperm : as.Perm bs := (List.perm_ext_iff_of_nodup (hasc has) (hasc hbs)).2 h
  have hsame : as = bs := by
    apply hperm.eq_of_pairwise _ has hbs
    intro a b _ _ hab hba
    omega
  subst hsame
  rfl

theorem ext_get? {t u : Table α} (h : ∀ k, t.get? k = u.get? k) : t = u := by
  apply ext_mem
  intro a
  have hget := h (key a)
  constructor
  · intro ha
    exact mem_of_get? (hget ▸ get?_of_mem ha)
  · intro ha
    exact mem_of_get? (hget ▸ get?_of_mem ha)

theorem insert_comm (t : Table α) {a b : α} (h : key a ≠ key b) : (t.insert a).insert b = (t.insert b).insert a := by
  apply ext_get?
  intro k
  simp only [get?_insert]
  by_cases ha : key a = k
  · have hb : key b ≠ k := fun hb => h (ha.trans hb.symm)
    simp [ha, hb]
  · simp [ha]

theorem insertAll_perm {as bs : List α} (h : as.Perm bs) (has : (as.map key).Nodup) (t : Table α) :
    t.insertAll as = t.insertAll bs := by
  refine h.foldl_eq' ?_ t
  intro a ha b hb u
  by_cases hab : key a = key b
  · rw [List.inj_on_of_nodup_map has ha hb hab]
  · exact u.insert_comm hab

theorem get?_filter (t : Table α) (p : α → Bool) (k : Nat) :
    (t.filter p).get? k = (t.get? k).filter p := by
  apply Option.ext
  intro a
  rw [get?_eq_some_iff, Option.filter_eq_some_iff, get?_eq_some_iff]
  simp only [filter, List.mem_filter]
  tauto

end Outbox.Table
