import Mathlib.Data.Set.List
import Outbox.Proofs.Postgres.Tuple
import Outbox.Proofs.Store.Order

namespace Outbox.Postgres.Sql

structure TextsFit (r : Row) : Prop where
  eventType : r.eventType.length ≤ 512
  correlationId : ∀ s, r.correlationId = some s → s.length ≤ 128
  aggregateId : ∀ s, r.aggregateId = some s → s.length ≤ 128
  key : ∀ s, r.key = some s → s.length ≤ 128
  error : ∀ s, r.error = some s → s.length ≤ 4000
  lockedBy : ∀ s, r.lockedBy = some s → s.length ≤ 128

/-- A row that the constraints of the table allow. -/
structure Storable (r : Row) : Prop extends TextsFit r where
  attempts : r.attempts.toNat ≤ largestInteger
  one_end : ¬ (r.isProcessed = true ∧ r.isDeadLettered = true)

theorem flaw?_varchar {f : Field} {limit : Nat} {s : Option String} (hdomain : f.domain = .varchar limit)
    (hnull : f.isRequired = false) (hs : ∀ t, s = some t → t.length ≤ limit) :
    f.flaw? (.ofOption .text s) = none := by
  cases s with
  | none => simp [Field.flaw?, Param.ofOption, hdomain, hnull]
  | some t => simp [Field.flaw?, Param.ofOption, hdomain, hs t rfl]

theorem flaw?_timestamp {f : Field} (t : Option Time) (hdomain : f.domain = .timestamp) (hnull : f.isRequired = false) :
    f.flaw? (.ofOption .time t) = none := by
  cases t with
  | none => simp [Field.flaw?, Param.ofOption, hdomain, hnull]
  | some t => simp [Field.flaw?, Param.ofOption, hdomain]

theorem Storable.flaw?_eq_none {r : Row} (h : Storable r) : Tuple.flaw? (ofRow r) = none := by
  have hfields : ∀ f : Field, f.flaw? (ofRow r f) = none := by
    intro f
    cases f with
    | id | occurredAt | createdAt | payload => rfl
    | type => exact if_pos h.eventType
    | attempts => exact if_pos h.attempts
    | correlationId => exact flaw?_varchar rfl rfl h.correlationId
    | aggregateId => exact flaw?_varchar rfl rfl h.aggregateId
    | key => exact flaw?_varchar rfl rfl h.key
    | error => exact flaw?_varchar rfl rfl h.error
    | lockedBy => exact flaw?_varchar rfl rfl h.lockedBy
    | processedAt | nextAttemptAt | lockedUntil | deadLetteredAt => exact flaw?_timestamp _ rfl rfl
  have hend : (Condition.or (.isNull .processedAt) (.isNull .deadLetteredAt)).truth [] (ofRow r) = some true := by
    have hone := h.one_end
    rw [Condition.truth, truth_isNull (r := r) (x := r.processedAt) rfl, truth_isNull (x := r.deadLetteredAt) rfl]
    unfold Row.isProcessed Row.isDeadLettered at hone
    cases hp : r.processedAt <;> cases hd : r.deadLetteredAt <;> simp_all [either]
  have hattempts : (Condition.compare .attempts .ge .zero).truth [] (ofRow r) = some true := by
    have hcompare : compare r.attempts.toNat 0 ≠ .lt := fun hlt => Nat.not_lt_zero _ (Nat.compare_eq_lt.1 hlt)
    simp only [Condition.truth, Operand.value, ofRow, compare?, Option.map_some, Comparison.admits]
    cases hc : compare r.attempts.toNat 0 with
    | lt => exact absurd hc hcompare
    | eq | gt => rfl
  rw [Tuple.flaw?, List.findSome?_eq_none_iff.2 fun f _ => hfields f, Option.none_or]
  simp [constraints, hend, hattempts]

def Mirrors (table : List Tuple) (s : Outbox.Store) : Prop := table.Perm (s.rows.entries.map ofRow)

variable {table : List Tuple} {s s' : Outbox.Store} {p : Row → Bool} {id : EventId}

theorem mirrors_empty : Mirrors [] Outbox.Store.empty := .refl _

theorem ofRow_injective : Function.Injective ofRow := by
  intro r q h
  have hr := toRow_record r
  rw [h, toRow_record q] at hr
  exact (Except.ok.inj hr).symm

theorem Mirrors.exists_rows (h : Mirrors table s) :
    ∃ rows : List Row, rows.Perm s.rows.entries ∧ table = rows.map ofRow := by
  have hrange : table ∈ Set.range (List.map ofRow) := by
    rw [Set.range_list_map]
    intro t ht
    obtain ⟨r, -, rfl⟩ := List.mem_map.1 (h.mem_iff.1 ht)
    exact ⟨r, rfl⟩
  obtain ⟨rows, rfl⟩ := hrange
  exact ⟨rows, (List.map_perm_map_iff ofRow_injective).1 h, rfl⟩

theorem mirrors_map {rows : List Row} (h : rows.Perm s.rows.entries) : Mirrors (rows.map ofRow) s := h.map ofRow

theorem Mirrors.scan (h : Mirrors table s) (e : Engine) (n : Nat) : Mirrors (e.scan n table) s :=
  (e.scan_perm n table).trans h

theorem Mirrors.flaw?_eq_none (h : Mirrors table s) (hs : ∀ r ∈ s.rows.entries, Storable r) : flaw? table = none := by
  have hrows : ∀ t ∈ table, Tuple.flaw? t = none := by
    intro t ht
    obtain ⟨r, hr, rfl⟩ := List.mem_map.1 (h.mem_iff.1 ht)
    exact (hs r hr).flaw?_eq_none
  have hids : (table.map (· .id)).Nodup := by
    obtain ⟨rows, hperm, rfl⟩ := h.exists_rows
    have hids : (rows.map (·.id)).Nodup := (hperm.map _).nodup_iff.2 s.nodup_ids
    have hmap : (rows.map ofRow).map (· .id) = (rows.map (·.id)).map fun id => Param.uuid id.uuid := by
      rw [List.map_map, List.map_map]
      rfl
    rw [hmap]
    exact hids.map fun a b he => congrArg EventId.mk (Param.uuid.inj he)
  rw [flaw?, List.findSome?_eq_none_iff.2 hrows, Option.none_or, if_pos hids]

section Reading

variable (h : Mirrors table s) {ps : List Param} {c : Condition}
include h

theorem Mirrors.countP_eq (hc : ∀ r ∈ s.rows.entries, c.selects ps (ofRow r) = p r) :
    table.countP (c.selects ps) = s.rows.entries.countP p := by
  rw [List.Perm.countP_eq _ h, List.countP_map]
  exact List.countP_congr fun r hr => by rw [Function.comp_apply, hc r hr]

theorem Mirrors.filter_eq (hc : ∀ r, c.selects ps (ofRow r) = (decide (r.id = id) && p r)) :
    table.filter (c.selects ps) = ((s.get? id).filter p).toList.map ofRow := by
  obtain ⟨rows, hperm, rfl⟩ := h.exists_rows
  have hrows : (rows.filter (c.selects ps ∘ ofRow)).Perm ((s.get? id).filter p).toList := by
    have hnodup : rows.Nodup := hperm.nodup_iff.2 (.of_map _ s.nodup_ids)
    refine (List.perm_ext_iff_of_nodup (hnodup.filter _) (by cases (s.get? id).filter p <;> simp)).2 fun r => ?_
    rw [List.mem_filter, Function.comp_apply, hc, hperm.mem_iff, Outbox.Store.mem_iff_get?, Bool.and_eq_true,
      decide_eq_true_eq, Option.mem_toList, Option.filter_eq_some_iff]
    constructor
    · rintro ⟨hr, rfl, hp⟩
      exact ⟨hr, hp⟩
    · rintro ⟨hr, hp⟩
      have hid := Outbox.Store.id_of_get? hr
      exact ⟨hid.symm ▸ hr, hid, hp⟩
  rw [List.filter_map]
  congr 1
  cases hx : (s.get? id).filter p with
  | none =>
      rw [hx] at hrows
      exact hrows.eq_nil
  | some r =>
      rw [hx] at hrows
      exact List.perm_singleton.1 hrows

theorem Mirrors.sorted_eq {order : List Field} {le : Row → Row → Bool} (ho : IsOrder le p)
    (hc : ∀ r, c.selects ps (ofRow r) = p r)
    (hle : ∀ a b, p a = true → p b = true → precedes order (ofRow a) (ofRow b) = le a b) :
    (table.filter (c.selects ps)).mergeSort (precedes order) = ((s.rows.entries.filter p).mergeSort le).map ofRow := by
  obtain ⟨rows, hperm, rfl⟩ := h.exists_rows
  have hfilter : rows.filter (c.selects ps ∘ ofRow) = rows.filter p := List.filter_congr fun r _ => hc r
  rw [List.filter_map, hfilter, ← ho.mergeSort_eq hperm s.nodup_ids]
  refine (List.map_mergeSort fun a ha b hb => ?_).symm
  exact (hle a b (List.mem_filter.1 ha).2 (List.mem_filter.1 hb).2).symm

end Reading

theorem Mirrors.map (h : Mirrors table s) {f : Tuple → Tuple} {g : Row → Row}
    (hf : ∀ r ∈ s.rows.entries, f (ofRow r) = ofRow (g r)) (hg : ∀ r, (g r).id = r.id)
    (hs : ∀ id, s'.get? id = (s.get? id).map g) : Mirrors (table.map f) s' := by
  have hmap : (s.rows.entries.map ofRow).map f = (s.rows.entries.map g).map ofRow := by
    rw [List.map_map, List.map_map]
    exact List.map_congr_left hf
  have hperm := List.Perm.map f h
  rw [hmap] at hperm
  exact hperm.trans ((Outbox.Store.entries_perm_map hg hs).symm.map ofRow)

theorem Mirrors.put (h : Mirrors table s) {covered : Tuple → Bool} {f : Tuple → Tuple} {r q : Row}
    (hr : s.get? id = some r) (hp : p r = true) (hid : q.id = r.id) (hf : f (ofRow r) = ofRow q)
    (hcovered : ∀ x, covered (ofRow x) = (decide (x.id = id) && p x)) :
    Mirrors (table.map fun t => if covered t then f t else t) (s.put q) := by
  have hrid := Outbox.Store.id_of_get? hr
  refine h.map (g := fun x => if x.id = id && p x then q else x) ?_ ?_ ?_
  · intro x hx
    rw [hcovered]
    by_cases hcond : (decide (x.id = id) && p x) = true
    · rw [if_pos hcond, if_pos hcond]
      obtain ⟨hxid, -⟩ := Bool.and_eq_true_iff.1 hcond
      obtain rfl : x = r := by
        have hx' := Outbox.Store.get?_of_mem hx
        rw [of_decide_eq_true hxid, hr] at hx'
        exact (Option.some.inj hx').symm
      exact hf
    · rw [if_neg hcond, if_neg hcond]
  · intro x
    split
    · rename_i hcond
      rw [hid, hrid, of_decide_eq_true (Bool.and_eq_true_iff.1 hcond).1]
    · rfl
  · intro i
    rw [Outbox.Store.get?_put, hid, hrid]
    by_cases hi : id = i
    · subst hi
      rw [if_pos rfl, hr, Option.map_some, if_pos]
      simp [hrid, hp]
    · rw [if_neg hi]
      cases hx : s.get? i with
      | none => rfl
      | some x =>
          have hne : x.id ≠ id := fun he => hi (he.symm.trans (Outbox.Store.id_of_get? hx))
          simp [hne]

theorem Mirrors.cons (h : Mirrors table s) {r : Row} (hfresh : s.get? r.id = none) :
    Mirrors (table ++ [ofRow r]) (s.put r) :=
  (List.perm_append_singleton ..).trans <|
    (List.Perm.cons _ h).trans ((Outbox.Store.entries_put_perm hfresh).symm.map ofRow)

end Outbox.Postgres.Sql
