import Mathlib.Logic.Function.Defs
import Outbox.Proofs.Table
import Outbox.UnitOfWork

namespace Outbox

theorem AccountId.value_injective : Function.Injective fun id : AccountId => id.uuid.value := by
  rintro ⟨⟨a, _⟩⟩ ⟨⟨b, _⟩⟩ (rfl : a = b)
  rfl

namespace AccountStore

variable {s : AccountStore} {a : Account} {id : AccountId}

@[simp]
theorem get?_empty (id : AccountId) : empty.get? id = none := rfl

@[simp]
theorem get?_put (s : AccountStore) (a : Account) (id : AccountId) :
    (s.put a).get? id = if a.id = id then some a else s.get? id := by
  have hkey : key a = id.uuid.value ↔ a.id = id := AccountId.value_injective.eq_iff
  simp only [get?, put, Table.get?_insert, hkey]

theorem id_of_get? (h : s.get? id = some a) : a.id = id := AccountId.value_injective (Table.key_of_get? h)

theorem get?_eq_some_iff : s.get? id = some a ↔ a ∈ s.accounts.entries ∧ a.id = id := by
  have hkey : key a = id.uuid.value ↔ a.id = id := AccountId.value_injective.eq_iff
  rw [get?, Table.get?_eq_some_iff, hkey]

theorem mem_iff_get? : a ∈ s.accounts.entries ↔ s.get? a.id = some a := by
  rw [get?_eq_some_iff, and_iff_left rfl]

theorem mem_put {b : Account} :
    a ∈ (s.put b).accounts.entries ↔ a = b ∨ a ∈ s.accounts.entries ∧ a.id ≠ b.id := by
  rw [mem_iff_get?, get?_put, mem_iff_get?]
  by_cases hid : b.id = a.id
  · rw [if_pos hid, Option.some_inj]
    simp [hid, eq_comm]
  · rw [if_neg hid, and_iff_left (Ne.symm hid), or_iff_right]
    exact fun hab => hid (congrArg Account.id hab.symm)

end AccountStore

namespace UnitOfWork

theorem apply_eq_ok {rows : List Row} {a : Account} {accounts accounts' : AccountStore} {store store' : Store}
    (h : ((start.stage rows).save a).apply accounts store = .ok (accounts', store')) :
    accounts' = accounts.put a ∧ store.add rows = .ok store' := by
  unfold apply at h
  change (store.add rows >>= _) = _ at h
  cases hs : store.add rows with
  | error e => rw [hs] at h; cases h
  | ok s => rw [hs] at h; cases h; exact ⟨rfl, rfl⟩

end UnitOfWork

end Outbox
