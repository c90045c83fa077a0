import Mathlib.Data.List.Perm.Basic
import Outbox.Proofs.Store.Lease

namespace Outbox

def Row.isProcessedBefore (r : Row) (before : Time) : Bool := r.processedAt.any (· < before)

namespace Store

open scoped List

def ids (s : Store) : List EventId := s.rows.entries.map (·.id)

def inserted (s : Store) : Operation → List EventId
  | .add rows => if (s.answer (.add rows)).1 = .done then rows.map (·.id) else []
  | _ => []

def deleted (s : Store) : Operation → List EventId
  | .purge before => s.ids.filter fun id => ((s.purge before).2.get? id).isNone
  | _ => []

def tallied (f : Store → Operation → List EventId) : Store → List Operation → List EventId
  | _, [] => []
  | s, op :: ops => f s op ++ tallied f (s.answer op).2 ops

variable {s : Store} {id : EventId} {op : Operation}

theorem mem_ids : id ∈ s.ids ↔ (s.get? id).isSome = true := by
  rw [ids, List.mem_map, Option.isSome_iff_exists]
  constructor
  · rintro ⟨r, hr, rfl⟩
    exact ⟨r, get?_of_mem hr⟩
  · rintro ⟨r, hr⟩
    exact ⟨r, mem_of_get? hr, id_of_get? hr⟩

theorem mem_inserted : id ∈ s.inserted op ↔ Inserts id s op := by
  cases op with
  | add rows =>
      simp only [inserted, Inserts]
      split
      · rename_i hdone
        simp [hdone]
      · rename_i hrefused
        simp [hrefused]
  | _ => simp [inserted, Inserts]

theorem mem_deleted : id ∈ s.deleted op ↔ Deletes id s op := by
  cases op with
  | purge before => simp [deleted, Deletes, mem_ids]
  | _ => simp [deleted, Deletes]

theorem add_of_done {rows : List Row} (h : (s.answer (.add rows)).1 = .done) :
    s.add rows = .ok (s.answer (.add rows)).2 := by
  simp only [answer, reply] at h ⊢
  split
  · rename_i s' hs
    exact hs
  · rename_i e he
    simp [he] at h

theorem Inserts.arrives (h : Inserts id s op) : s.get? id = none ∧ ((s.answer op).2.get? id).isSome = true := by
  cases op with
  | add rows =>
      obtain ⟨hdone, r, hr, rfl⟩ := h
      have hadd := add_of_done hdone
      exact ⟨(add_eq_ok hadd).2.1 r hr, mem_ids.1 (List.mem_map.2 ⟨r, (mem_of_add hadd).2 (.inl hr), rfl⟩)⟩
  | _ => exact h.elim

theorem Deletes.leaves (h : Deletes id s op) : (s.get? id).isSome = true ∧ (s.answer op).2.get? id = none := by
  cases op with
  | purge before => exact ⟨h.1, Option.isNone_iff_eq_none.1 h.2⟩
  | _ => exact h.elim

theorem nodup_inserted (s : Store) (op : Operation) : (s.inserted op).Nodup := by
  cases op with
  | add rows =>
      simp only [inserted]
      split
      · rename_i hdone
        exact (add_eq_ok (add_of_done hdone)).1
      · exact List.nodup_nil
  | _ => exact List.nodup_nil

theorem nodup_deleted (s : Store) (op : Operation) : (s.deleted op).Nodup := by
  cases op with
  | purge before => exact s.nodup_ids.filter _
  | _ => exact List.nodup_nil

theorem mem_ids_answer (s : Store) (op : Operation) (id : EventId) :
    id ∈ (s.answer op).2.ids ∨ id ∈ s.deleted op ↔ id ∈ s.ids ∨ id ∈ s.inserted op := by
  have hc := change_answer s op id
  simp only [mem_ids, mem_deleted, mem_inserted]
  generalize hx : s.get? id = x at hc
  generalize hy : (s.answer op).2.get? id = y at hc
  cases hc with
  | same =>
      cases x with
      | some r => simp
      | none =>
          have hd : ¬ Deletes id s op := fun h => by simpa [hx] using h.leaves.1
          have hi : ¬ Inserts id s op := fun h => by simpa [hy] using h.arrives.2
          simp [hd, hi]
  | added rows r hr hid =>
      have hi : Inserts id s (.add rows) := inserts_of_added hx (by simp [hy])
      simp [hi]
  | leased | processed | failed | requeued => simp
  | purged before t r ht hbefore =>
      have hd : Deletes id s (.purge before) := ⟨by simp [hx], by simpa [answer] using hy⟩
      simp [hd]

theorem ids_answer (s : Store) (op : Operation) :
    (s.answer op).2.ids ++ s.deleted op ~ s.ids ++ s.inserted op := by
  have hafter : ((s.answer op).2.ids ++ s.deleted op).Nodup := by
    refine (s.answer op).2.nodup_ids.append (nodup_deleted s op) fun id hs hd => ?_
    have hnone := (mem_deleted.1 hd).leaves.2
    have hsome := mem_ids.1 hs
    simp [hnone] at hsome
  have hbefore : (s.ids ++ s.inserted op).Nodup := by
    refine s.nodup_ids.append (nodup_inserted s op) fun id hs hi => ?_
    have hnone := (mem_inserted.1 hi).arrives.1
    have hsome := mem_ids.1 hs
    simp [hnone] at hsome
  refine (List.perm_ext_iff_of_nodup hafter hbefore).2 fun id => ?_
  simpa only [List.mem_append] using mem_ids_answer s op id

theorem ids_after (s : Store) (ops : List Operation) :
    (s.after ops).ids ++ tallied deleted s ops ~ s.ids ++ tallied inserted s ops := by
  induction ops generalizing s with
  | nil => exact .refl _
  | cons op ops ih =>
      have hstep := ids_answer s op
      have hrest := ih (s.answer op).2
      simp only [after_cons, tallied]
      generalize ((s.answer op).2.after ops).ids = left at hrest ⊢
      generalize tallied deleted (s.answer op).2 ops = gone at hrest ⊢
      generalize tallied inserted (s.answer op).2 ops = come at hrest ⊢
      calc left ++ (s.deleted op ++ gone)
        _ ~ s.deleted op ++ (left ++ gone) := List.perm_append_comm_assoc ..
        _ ~ s.deleted op ++ ((s.answer op).2.ids ++ come) := hrest.append_left _
        _ ~ (s.answer op).2.ids ++ (s.deleted op ++ come) := List.perm_append_comm_assoc ..
        _ ~ (s.answer op).2.ids ++ s.deleted op ++ come := by rw [List.append_assoc]
        _ ~ s.ids ++ s.inserted op ++ come := hstep.append_right _
        _ ~ s.ids ++ (s.inserted op ++ come) := by rw [List.append_assoc]

theorem keeps_iff (r : Row) (before : Time) :
    (r.processedAt.all (before ≤ ·)) = !r.isProcessedBefore before := by
  unfold Row.isProcessedBefore
  cases r.processedAt with
  | none => rfl
  | some t => simp [← Time.not_le]

theorem entries_purge (s : Store) (before : Time) :
    (s.purge before).2.rows.entries = s.rows.entries.filter fun r => !r.isProcessedBefore before := by
  simp only [purge, Table.filter, keeps_iff]

theorem size_purge (s : Store) (before : Time) :
    (s.purge before).1 + (s.purge before).2.rows.size = s.rows.size :=
  Nat.sub_add_cancel (List.length_filter_le ..)

theorem count_purge (s : Store) (before : Time) :
    (s.purge before).1 = s.rows.entries.countP (·.isProcessedBefore before) := by
  have hsize := size_purge s before
  have hsplit := List.length_eq_countP_add_countP (·.isProcessedBefore before) (l := s.rows.entries)
  rw [Table.size, Table.size, entries_purge, ← List.countP_eq_length_filter] at hsize
  simp only [Bool.not_eq_true, Bool.decide_eq_false] at hsplit
  omega

theorem ext_entries {t : Store} (h : s.rows.entries = t.rows.entries) : s = t := by
  obtain ⟨⟨entries, _⟩⟩ := s
  obtain ⟨⟨entries', _⟩⟩ := t
  obtain rfl : entries = entries' := h
  rfl

theorem isProcessedBefore_max (r : Row) (a b : Time) :
    r.isProcessedBefore (max a b) = (r.isProcessedBefore a || r.isProcessedBefore b) := by
  unfold Row.isProcessedBefore
  cases r.processedAt with
  | none => rfl
  | some t => simp [Time.lt_max_iff]

theorem purge_purge (s : Store) (a b : Time) : ((s.purge a).2.purge b).2 = (s.purge (max a b)).2 := by
  apply ext_entries
  simp only [entries_purge, List.filter_filter, isProcessedBefore_max, Bool.not_or]
  congr 1
  funext r
  exact Bool.and_comm ..

theorem count_purge_purge (s : Store) (a b : Time) :
    (s.purge a).1 + ((s.purge a).2.purge b).1 = (s.purge (max a b)).1 := by
  have h₁ := size_purge s a
  have h₂ := size_purge (s.purge a).2 b
  have h₃ := size_purge s (max a b)
  rw [purge_purge] at h₂
  omega

end Store

end Outbox
