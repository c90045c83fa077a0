import Mathlib.Data.List.Induction
import Outbox.Proofs.Store.Operation
import Outbox.Proofs.Store.Order

namespace Outbox.Store

variable {s s' s₁ s₂ : Store} {xs ys seen rows : List Row} {id : EventId}

theorem ext_mem (h : ∀ r, r ∈ s.rows.entries ↔ r ∈ s'.rows.entries) : s = s' := by
  obtain ⟨t⟩ := s
  obtain ⟨u⟩ := s'
  exact congrArg Store.mk (Table.ext_mem h)

/-- The id of the row is stored, or more than one of the rows have it. -/
def Collides (s : Store) (rows : List Row) (r : Row) : Prop :=
  (s.get? r.id).isSome = true ∨ 2 ≤ (rows.map (·.id)).count r.id

instance (s : Store) (rows : List Row) (r : Row) : Decidable (s.Collides rows r) :=
  inferInstanceAs (Decidable (_ ∨ _))

/-- Rows under ids of their own, none of which is stored. -/
structure Admits (s : Store) (rows : List Row) : Prop where
  nodup : (rows.map (·.id)).Nodup
  free : ∀ r ∈ rows, s.get? r.id = none

/-- The first row whose id is stored, or is that of a row before it. -/
def Refuses (s : Store) (rows : List Row) (id : EventId) : Prop :=
  ∃ before r after, rows = before ++ r :: after ∧ r.id = id ∧ s.Admits before ∧
    ((s.get? id).isSome = true ∨ ∃ q ∈ before, q.id = id)

theorem admits_iff : s.Admits rows ↔ ∀ r ∈ rows, ¬ s.Collides rows r := by
  constructor
  · intro h r hr hcollides
    have hcount := List.nodup_iff_count_le_one.1 h.nodup r.id
    rcases hcollides with hstored | htwice
    · rw [h.free r hr] at hstored
      cases hstored
    · omega
  · intro h
    refine ⟨List.nodup_iff_count_le_one.2 fun id => ?_, fun r hr => ?_⟩
    · by_cases hid : id ∈ rows.map (·.id)
      · obtain ⟨r, hr, rfl⟩ := List.mem_map.1 hid
        have htwice : ¬ 2 ≤ (rows.map (·.id)).count r.id := fun h' => h r hr (.inr h')
        omega
      · rw [List.count_eq_zero_of_not_mem hid]
        exact Nat.zero_le 1
    · exact Option.not_isSome_iff_eq_none.1 fun hstored => h r hr (.inl hstored)

theorem clash?_congr {seen' : List Row} (h : ∀ id, ((s.get? id).isSome = true ∨ seen.any (·.id = id) = true) ↔
      ((s'.get? id).isSome = true ∨ seen'.any (·.id = id) = true)) :
    s.clash? seen rows = s'.clash? seen' rows := by
  induction rows generalizing seen seen' with
  | nil => rfl
  | cons r rows ih =>
      simp only [clash?, h r.id]
      split
      · rfl
      · refine ih fun id => ?_
        rw [List.any_cons, List.any_cons, Bool.or_eq_true, Bool.or_eq_true, or_left_comm, h id, or_left_comm]

theorem clash?_append (s : Store) (seen xs ys : List Row) :
    s.clash? seen (xs ++ ys) = (s.clash? seen xs).or (s.clash? (xs.reverse ++ seen) ys) := by
  induction xs generalizing seen with
  | nil => simp [clash?]
  | cons r xs ih =>
      simp only [List.cons_append, clash?]
      split
      · rfl
      · rw [ih, List.reverse_cons, List.append_assoc]
        rfl

theorem clash?_of_admits (h : s.Admits rows) : s.clash? [] rows = none := by
  induction rows using List.reverseRecOn with
  | nil => rfl
  | append_singleton rows r ih =>
      have hids : ((rows ++ [r]).map (·.id)).Nodup := h.nodup
      rw [List.map_append, List.nodup_append] at hids
      obtain ⟨hrows, -, hapart⟩ := hids
      have hnone : s.clash? [] rows = none := ih ⟨hrows, fun q hq => h.free q (List.mem_append_left _ hq)⟩
      have hfree : s.get? r.id = none := h.free r (by simp)
      have hunseen : ∀ q ∈ rows, q.id ≠ r.id := fun q hq => hapart _ (List.mem_map_of_mem hq) _ (by simp)
      rw [clash?_append, hnone, Option.none_or, clash?, if_neg]
      · rfl
      · simpa [hfree] using hunseen

theorem clash?_of_refuses (h : s.Refuses rows id) : s.clash? [] rows = some id := by
  obtain ⟨before, r, after, rfl, rfl, hbefore, htaken⟩ := h
  rw [clash?_append, clash?_of_admits hbefore, Option.none_or, clash?, if_pos]
  simpa using htaken

theorem admits_of_clash? (h : s.clash? [] rows = none) : s.Admits rows :=
  ⟨(clash?_eq_none h).1, fun r hr => ((clash?_eq_none h).2 r hr).1⟩

theorem refuses_of_clash? (h : s.clash? [] rows = some id) : s.Refuses rows id := by
  induction rows using List.reverseRecOn with
  | nil => cases h
  | append_singleton rows r ih =>
      rw [clash?_append] at h
      cases hrows : s.clash? [] rows with
      | some i =>
          rw [hrows, Option.some_or] at h
          cases h
          obtain ⟨before, q, after, rfl, hq, hbefore, htaken⟩ := ih hrows
          exact ⟨before, q, after ++ [r], by simp, hq, hbefore, htaken⟩
      | none =>
          rw [hrows, Option.none_or, clash?] at h
          split at h
          · rename_i htaken
            cases h
            exact ⟨rows, r, [], rfl, rfl, admits_of_clash? hrows, by simpa using htaken⟩
          · cases h

theorem exists_refuses_iff : (∃ id, s.Refuses rows id) ↔ ∃ r ∈ rows, s.Collides rows r := by
  rw [← not_iff_not]
  push Not
  rw [← admits_iff]
  constructor
  · intro h
    cases hclash : s.clash? [] rows with
    | some id => exact absurd (refuses_of_clash? hclash) (h id)
    | none => exact admits_of_clash? hclash
  · intro h id hid
    cases (clash?_of_admits h).symm.trans (clash?_of_refuses hid)

theorem add_of_refuses (h : s.Refuses rows id) : s.add rows = .error (.alreadyExists id) := by
  rw [add, clash?_of_refuses h]

theorem add_of_admits (h : s.Admits rows) : s.add rows = .ok ⟨s.rows.insertAll rows⟩ := by
  rw [add, clash?_of_admits h]

theorem entries_add (h : s.add rows = .ok s') : s'.rows.entries.Perm (rows ++ s.rows.entries) := by
  obtain ⟨hnodup, hfree, -⟩ := add_eq_ok h
  refine perm_entries ?_ fun r => ?_
  · rw [List.map_append, List.nodup_append]
    refine ⟨hnodup, s.nodup_ids, ?_⟩
    rintro i hi j hj rfl
    obtain ⟨r, hr, rfl⟩ := List.mem_map.1 hi
    obtain ⟨q, hq, hid⟩ := List.mem_map.1 hj
    have hstored := get?_of_mem hq
    rw [hid, hfree r hr] at hstored
    cases hstored
  · rw [← mem_iff_get?, mem_of_add h, List.mem_append]

theorem add_append (s : Store) (xs ys : List Row) : s.add (xs ++ ys) = s.add xs >>= fun s₁ => s₁.add ys := by
  cases hxs : s.clash? [] xs with
  | some id =>
      have hboth : s.clash? [] (xs ++ ys) = some id := by rw [clash?_append, hxs, Option.some_or]
      simp only [add, hxs, hboth]
      rfl
  | none =>
      have hnodup := (admits_of_clash? hxs).nodup
      have hstored (id : EventId) : ((⟨s.rows.insertAll xs⟩ : Store).get? id).isSome = true ↔
          (s.get? id).isSome = true ∨ xs.any (·.id = id) = true := by
        rw [get?_insertAll hnodup, Option.isSome_or, Bool.or_eq_true, List.find?_isSome, List.any_eq_true, or_comm]
      have hrest : s.clash? (xs.reverse ++ []) ys = (⟨s.rows.insertAll xs⟩ : Store).clash? [] ys := by
        apply clash?_congr
        intro id
        rw [hstored]
        simp
      have hadd : s.add xs = .ok ⟨s.rows.insertAll xs⟩ := by rw [add, hxs]
      rw [hadd]
      show s.add (xs ++ ys) = (⟨s.rows.insertAll xs⟩ : Store).add ys
      simp only [add, clash?_append, hxs, Option.none_or, hrest, Table.insertAll_append]

def addAll (s : Store) (batches : List (List Row)) : Except StoreError Store := batches.foldlM add s

theorem addAll_eq (s : Store) (batches : List (List Row)) : s.addAll batches = s.add batches.flatten := by
  induction batches generalizing s with
  | nil => rfl
  | cons rows batches ih =>
      rw [addAll, List.foldlM_cons, List.flatten_cons, add_append]
      exact congrArg (s.add rows >>= ·) (funext fun s₁ => ih s₁)

theorem addAll_unique {xss yss : List (List Row)} (h₁ : s.addAll xss = .ok s₁) (h₂ : s.addAll yss = .ok s₂)
    (h : ∀ r, r ∈ xss.flatten ↔ r ∈ yss.flatten) : s₁ = s₂ := by
  rw [addAll_eq] at h₁ h₂
  apply ext_mem
  intro r
  rw [mem_of_add h₁, mem_of_add h₂, h]

end Outbox.Store
