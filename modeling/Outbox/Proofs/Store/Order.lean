import Mathlib.Data.List.Perm.Basic
import Outbox.Proofs.Store.Effects

namespace Outbox

variable {le : Row → Row → Bool} {p : Row → Bool}

/-- An order of rows that puts no two of some rows in the same place. -/
structure IsOrder (le : Row → Row → Bool) (p : Row → Bool) : Prop where
  trans : ∀ a b c, le a b = true → le b c = true → le a c = true
  total : ∀ a b, le a b = true ∨ le b a = true
  antisymm : ∀ a b, p a = true → p b = true → le a b = true → le b a = true → a.id = b.id

theorem eq_of_id_eq {rows : List Row} (hids : (rows.map (·.id)).Nodup) {a b : Row} (ha : a ∈ rows) (hb : b ∈ rows)
    (h : a.id = b.id) : a = b :=
  List.inj_on_of_nodup_map hids ha hb h

theorem IsOrder.pairwise (h : IsOrder le p) (rows : List Row) : (rows.mergeSort le).Pairwise (le · ·) :=
  List.pairwise_mergeSort h.trans (fun a b => Bool.or_eq_true_iff.2 (h.total a b)) rows

theorem IsOrder.mergeSort_eq (h : IsOrder le p) {rows rows' : List Row} (hperm : rows.Perm rows')
    (hids : (rows'.map (·.id)).Nodup) : (rows.filter p).mergeSort le = (rows'.filter p).mergeSort le := by
  have hsort : ((rows.filter p).mergeSort le).Perm ((rows'.filter p).mergeSort le) :=
    (List.mergeSort_perm ..).trans ((hperm.filter p).trans (List.mergeSort_perm ..).symm)
  refine hsort.eq_of_pairwise ?_ (h.pairwise _) (h.pairwise _)
  intro a b ha hb hab hba
  obtain ⟨ha, hpa⟩ := List.mem_filter.1 (List.mem_mergeSort.1 ha)
  obtain ⟨hb, hpb⟩ := List.mem_filter.1 (List.mem_mergeSort.1 hb)
  exact eq_of_id_eq hids (hperm.mem_iff.1 ha) hb (h.antisymm a b hpa hpb hab hba)

theorem earlier_iff {s t : Time} {i j : EventId} : (decide (s < t) || (s == t && decide (i ≤ j))) = true ↔
    s.rank < t.rank ∨ s.rank = t.rank ∧ i.uuid.value ≤ j.uuid.value := by
  have hrank : s = t ↔ s.rank = t.rank := ⟨congrArg _, Time.rank_injective⟩
  simp only [Bool.or_eq_true, Bool.and_eq_true, decide_eq_true_eq, beq_iff_eq, hrank]
  rfl

theorem isOrder_precedes (p : Row → Bool) : IsOrder Row.precedes p where
  trans a b c := by
    simp only [Row.precedes, earlier_iff]
    omega
  total a b := by
    simp only [Row.precedes, earlier_iff]
    omega
  antisymm a b _ _ := by
    simp only [Row.precedes, earlier_iff]
    intro hab hba
    refine EventId.value_injective ?_
    show a.id.uuid.value = b.id.uuid.value
    omega

/-- Strictly ahead of another, by a moment that both have and, where it is the same, by id. -/
def Row.Ahead (moment : Row → Option Time) (r q : Row) : Prop :=
  ∃ s t, moment r = some s ∧ moment q = some t ∧ (s < t ∨ s = t ∧ r.id < q.id)

theorem Row.Ahead.of_earlier {moment : Row → Option Time} {r q : Row} {s t : Time} (hs : moment r = some s)
    (ht : moment q = some t) (h : (decide (s < t) || (s == t && decide (r.id ≤ q.id))) = true) (hid : r.id ≠ q.id) :
    r.Ahead moment q := by
  have hne : r.id.uuid.value ≠ q.id.uuid.value := fun he => hid (EventId.value_injective he)
  rcases earlier_iff.1 h with hlt | ⟨heq, hle⟩
  · exact ⟨s, t, hs, ht, .inl hlt⟩
  · exact ⟨s, t, hs, ht, .inr ⟨Time.rank_injective heq, Nat.lt_of_le_of_ne hle hne⟩⟩

namespace Store

theorem isOrder_deadLetterPrecedes : IsOrder deadLetterPrecedes Row.isDeadLettered where
  trans a b c := by
    unfold deadLetterPrecedes
    cases a.deadLetteredAt <;> cases b.deadLetteredAt <;> cases c.deadLetteredAt <;> simp only [earlier_iff] <;>
      grind
  total a b := by
    unfold deadLetterPrecedes
    cases a.deadLetteredAt <;> cases b.deadLetteredAt <;> simp only [earlier_iff] <;>
      grind
  antisymm a b ha hb := by
    obtain ⟨s, hs⟩ := Option.isSome_iff_exists.1 ha
    obtain ⟨t, ht⟩ := Option.isSome_iff_exists.1 hb
    simp only [deadLetterPrecedes, hs, ht, earlier_iff]
    intro hab hba
    refine EventId.value_injective ?_
    show a.id.uuid.value = b.id.uuid.value
    omega

variable {s s' : Store}

/-- All rows of a kind that a store has, each strictly ahead of those behind it. -/
structure Lists (s : Store) (kind : Row → Bool) (moment : Row → Option Time) (rows : List Row) : Prop where
  ahead : rows.Pairwise (Row.Ahead moment)
  mem : ∀ r, r ∈ rows ↔ s.get? r.id = some r ∧ kind r = true

theorem lists_mergeSort {moment : Row → Option Time} (h : IsOrder le p)
    (hahead : ∀ a b, p a = true → p b = true → le a b = true → a.id ≠ b.id → a.Ahead moment b) (s : Store) :
    s.Lists p moment ((s.rows.entries.filter p).mergeSort le) where
  ahead := by
    have hids : ((s.rows.entries.filter p).mergeSort le).Pairwise (·.id ≠ ·.id) := by
      have hperm := (List.mergeSort_perm (s.rows.entries.filter p) le).map (·.id)
      exact List.pairwise_map.1 (hperm.nodup_iff.2 (s.nodup_ids.sublist (List.filter_sublist.map _)))
    refine ((h.pairwise _).and hids).imp_of_mem fun {a b} ha hb ⟨hle, hid⟩ => ?_
    have hpa := (List.mem_filter.1 (List.mem_mergeSort.1 ha)).2
    have hpb := (List.mem_filter.1 (List.mem_mergeSort.1 hb)).2
    exact hahead a b hpa hpb hle hid
  mem r := by rw [List.mem_mergeSort, List.mem_filter, mem_iff_get?]

theorem lists_claimable (s : Store) (now : Time) :
    s.Lists (·.isClaimable now) (some ·.occurredAt) (s.claimable now) :=
  lists_mergeSort (isOrder_precedes _) (fun _ _ _ _ hle hid => .of_earlier rfl rfl hle hid) s

theorem sorted_claimable (s : Store) (now : Time) : (s.claimable now).Pairwise (Row.precedes · ·) :=
  (isOrder_precedes fun _ => true).pairwise _

theorem claimable_eq {rows : List Row} {now : Time} (hids : (rows.map (·.id)).Nodup)
    (hsorted : rows.Pairwise (Row.precedes · ·)) (hmem : ∀ r, r ∈ s.claimable now ↔ r ∈ rows) :
    s.claimable now = rows := by
  have hperm : (s.claimable now).Perm rows :=
    (List.perm_ext_iff_of_nodup (.of_map _ (s.nodup_claimable now)) (.of_map _ hids)).2 hmem
  refine hperm.eq_of_pairwise ?_ (s.sorted_claimable now) hsorted
  intro a b ha hb hab hba
  exact eq_of_id_eq hids ((hmem a).1 ha) hb ((isOrder_precedes fun _ => true).antisymm a b rfl rfl hab hba)

theorem claimable_of_filter {rows : List Row} {now : Time} (h : s.rows.entries.filter (·.isClaimable now) = rows)
    (hsorted : rows.Pairwise (Row.precedes · ·)) : s.claimable now = rows := by
  rw [claimable, h, List.mergeSort_of_pairwise hsorted]

theorem claimable_drop {take : Nat} {now : Time} {g : Row → Row} (hg : ∀ r, (g r).isClaimable now = false)
    (h : ∀ id, s'.get? id = ((((s.claimable now).take take).find? (·.id = id)).map g).or (s.get? id)) :
    s'.claimable now = (s.claimable now).drop take := by
  have hnodup := s.nodup_claimable now
  rw [← List.take_append_drop take (s.claimable now), List.map_append] at hnodup
  obtain ⟨htake, hdrop, hapart⟩ := List.nodup_append.1 hnodup
  refine claimable_eq hdrop ((s.sorted_claimable now).sublist (List.drop_sublist ..)) fun r => ?_
  have hfrom : r ∈ s.claimable now ↔ r ∈ (s.claimable now).take take ∨ r ∈ (s.claimable now).drop take := by
    rw [← List.mem_append, List.take_append_drop]
  rw [mem_claimable, h]
  by_cases hbatch : ∀ q ∈ (s.claimable now).take take, q.id ≠ r.id
  · rw [find?_id_eq_none.2 hbatch, Option.map_none, Option.none_or, ← mem_claimable, hfrom]
    exact or_iff_right fun hr => hbatch r hr rfl
  · push Not at hbatch
    obtain ⟨q, hq, hid⟩ := hbatch
    rw [← hid, find?_id_eq_some htake hq, Option.map_some, Option.some_or]
    constructor
    · rintro ⟨hr, hclaim⟩
      cases hr
      cases (hg q).symm.trans hclaim
    · intro hr
      exact absurd hid (hapart _ (List.mem_map_of_mem hq) _ (List.mem_map_of_mem hr))

theorem claimable_relayed (s : Store) (take : Nat) (worker : String) (expiry now : Time) :
    (s.relayed take worker expiry now).claimable now = (s.claimable now).drop take :=
  claimable_drop (fun _ => rfl) (s.get?_relayed take worker expiry now)

theorem perm_entries {rows : List Row} (hids : (rows.map (·.id)).Nodup)
    (h : ∀ r, s.get? r.id = some r ↔ r ∈ rows) : s.rows.entries.Perm rows := by
  refine (List.perm_ext_iff_of_nodup (.of_map _ s.nodup_ids) (.of_map _ hids)).2 fun r => ?_
  rw [mem_iff_get?, h]

theorem entries_perm_map {g : Row → Row} (hg : ∀ r, (g r).id = r.id)
    (h : ∀ id, s'.get? id = (s.get? id).map g) : s'.rows.entries.Perm (s.rows.entries.map g) := by
  have hids : (s.rows.entries.map g).map (·.id) = s.rows.entries.map (·.id) := by
    rw [List.map_map]
    exact List.map_congr_left fun r _ => hg r
  refine perm_entries (hids ▸ s.nodup_ids) fun r => ?_
  rw [h, Option.map_eq_some_iff, List.mem_map]
  constructor
  · rintro ⟨q, hq, rfl⟩
    exact ⟨q, mem_of_get? hq, rfl⟩
  · rintro ⟨q, hq, rfl⟩
    exact ⟨q, hg q ▸ get?_of_mem hq, rfl⟩

theorem entries_put_perm {r : Row} (h : s.get? r.id = none) : (s.put r).rows.entries.Perm (r :: s.rows.entries) := by
  have hfresh : ∀ q ∈ s.rows.entries, q.id ≠ r.id := by
    intro q hq he
    have hsome := get?_of_mem hq
    rw [he, h] at hsome
    cases hsome
  refine perm_entries (List.nodup_cons.2 ⟨?_, s.nodup_ids⟩) fun q => ?_
  · intro hmem
    obtain ⟨q, hq, he⟩ := List.mem_map.1 hmem
    exact hfresh q hq he
  · rw [get?_put, List.mem_cons, mem_iff_get?]
    split
    · rename_i he
      rw [← he, h]
      simp [eq_comm]
    · rename_i hne
      exact ⟨.inr, fun h => h.resolve_left fun he => hne (he ▸ rfl)⟩

end Store

end Outbox
