import Outbox.Uuid.Reader

namespace Outbox

structure EventId where
  uuid : Uuid
deriving DecidableEq, Inhabited

structure AccountId where
  uuid : Uuid
deriving DecidableEq, Inhabited

namespace EventId

def text (id : EventId) : String := id.uuid.text

def simple (id : EventId) : String := id.uuid.simple

instance : LE EventId := ⟨fun a b => a.uuid ≤ b.uuid⟩

instance : LT EventId := ⟨fun a b => a.uuid < b.uuid⟩

instance (a b : EventId) : Decidable (a ≤ b) := inferInstanceAs (Decidable (a.uuid ≤ b.uuid))

instance (a b : EventId) : Decidable (a < b) := inferInstanceAs (Decidable (a.uuid < b.uuid))

end EventId

namespace AccountId

def text (id : AccountId) : String := id.uuid.text

def simple (id : AccountId) : String := id.uuid.simple

end AccountId

/-- An endless supply of ids, of which the first `taken` are used up. -/
structure IdSource where
  id : Nat → Uuid
  taken : Nat

namespace IdSource

def take (s : IdSource) : Uuid × IdSource := (s.id s.taken, ⟨s.id, s.taken + 1⟩)

/-- The 64-bit words in order from `first`, starting over after the last one. -/
def sequential (first : UInt64) : IdSource := ⟨fun n => .ofWord (first + UInt64.ofNat n), 0⟩

def takeMany (s : IdSource) (count : Nat) : List Uuid := (List.range count).map fun n => s.id (s.taken + n)

end IdSource

end Outbox
