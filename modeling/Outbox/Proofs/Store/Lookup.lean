import Mathlib.Data.List.Nodup
import Outbox.Proofs.Table
import Outbox.Proofs.Time
import Outbox.Store

namespace Outbox

theorem EventId.value_injective : Function.Injective fun id : EventId => id.uuid.value := by
  rintro ⟨⟨a, _⟩⟩ ⟨⟨b, _⟩⟩ (rfl : a = b)
  rfl

theorem key_row (r : Row) : key r = r.id.uuid.value := rfl

theorem key_row_eq_iff {r : Row} {id : EventId} : key r = id.uuid.value ↔ r.id = id :=
  ⟨fun h => EventId.value_injective h, fun h => by rw [key_row, h]⟩

theorem lt_leaseExpiry {now expiry : Time} {lease : Duration} (h : leaseExpiry now lease = .ok expiry) :
    now < expiry := by
  unfold leaseExpiry at h
  split at h
  · cases h
  · rename_i hz
    split at h
    · rename_i t ht
      cases h
      exact Time.lt_plus? hz ht
    · cases h

namespace Store

variable {s s' : Store} {r : Row} {id : EventId}

@[simp]
theorem get?_empty (id : EventId) : empty.get? id = none := rfl

@[simp]
theorem get?_put (s : Store) (r : Row) (id : EventId) :
    (s.put r).get? id = if r.id = id then some r else s.get? id := by
  simp only [get?, put, Table.get?_insert, key_row_eq_iff]

theorem id_of_get? (h : s.get? id = some r) : r.id = id := key_row_eq_iff.1 (Table.key_of_get? h)

theorem mem_of_get? (h : s.get? id = some r) : r ∈ s.rows.entries := Table.mem_of_get? h

theorem get?_of_mem (h : r ∈ s.rows.entries) : s.get? r.id = some r := Table.get?_of_mem h

theorem mem_iff_get? : r ∈ s.rows.entries ↔ s.get? r.id = some r := ⟨get?_of_mem, mem_of_get?⟩

theorem find?_key_eq (rows : List Row) (id : EventId) :
    rows.find? (key · == id.uuid.value) = rows.find? (·.id = id) := by
  congr 1
  funext r
  simp only [beq_eq_decide, key_row_eq_iff]

theorem nodup_keys_iff {rows : List Row} : (rows.map key).Nodup ↔ (rows.map (·.id)).Nodup := by
  have he : rows.map key = (rows.map (·.id)).map (·.uuid.value) := by simp [key_row]
  rw [he, List.nodup_map_iff EventId.value_injective]

theorem nodup_ids (s : Store) : (s.rows.entries.map (·.id)).Nodup := nodup_keys_iff.1 s.rows.nodup_keys

theorem get?_insertAll {rows : List Row} (hrows : (rows.map (·.id)).Nodup) (s : Store) (id : EventId) :
    (⟨s.rows.insertAll rows⟩ : Store).get? id = (rows.find? (·.id = id)).or (s.get? id) := by
  rw [get?, Table.get?_insertAll (nodup_keys_iff.2 hrows), find?_key_eq]
  rfl

theorem find?_id_eq_some {rows : List Row} (hrows : (rows.map (·.id)).Nodup) (hr : r ∈ rows) :
    rows.find? (·.id = r.id) = some r := by
  induction rows with
  | nil => simp at hr
  | cons q rows ih =>
      obtain ⟨hq, hrows⟩ := List.nodup_cons.1 hrows
      rcases List.mem_cons.1 hr with rfl | hr
      · simp
      · have hne : q.id ≠ r.id := fun he => hq (List.mem_map.2 ⟨r, hr, he.symm⟩)
        simpa [hne] using ih hrows hr

theorem find?_id_eq_none {rows : List Row} : rows.find? (·.id = id) = none ↔ ∀ r ∈ rows, r.id ≠ id := by
  simp

end Store

end Outbox
