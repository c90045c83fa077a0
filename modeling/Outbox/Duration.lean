import Outbox.Text.Decimal

namespace Outbox

/-- A length of time in whole nanoseconds, no longer than a 64-bit count of seconds can say. -/
structure Duration where
  nanos : Nat
  nanos_lt : nanos < 0x1_0000_0000_0000_0000 * 1_000_000_000
deriving DecidableEq

namespace Duration

def zero : Duration := ⟨0, by decide⟩

instance : Inhabited Duration := ⟨zero⟩

def longest : Duration := ⟨0x1_0000_0000_0000_0000 * 1_000_000_000 - 1, by decide⟩

def saturating (n : Nat) : Duration := ⟨min n longest.nanos, by
  have h : longest.nanos < 0x1_0000_0000_0000_0000 * 1_000_000_000 := longest.nanos_lt
  omega⟩

def ofNanos? (n : Nat) : Option Duration :=
  if h : n < 0x1_0000_0000_0000_0000 * 1_000_000_000 then some ⟨n, h⟩ else none

def ofSeconds (s : UInt64) : Duration := ⟨s.toNat * 1_000_000_000, by
  have := s.toNat_lt
  omega⟩

def ofMillis (ms : UInt64) : Duration := ⟨ms.toNat * 1_000_000, by
  have := ms.toNat_lt
  omega⟩

/-- Nanoseconds beyond a second carry over; none if the sum is too long. -/
def ofParts? (seconds nanos : Nat) : Option Duration := ofNanos? (seconds * 1_000_000_000 + nanos)

def seconds (d : Duration) : Nat := d.nanos / 1_000_000_000

def subsecond (d : Duration) : Nat := d.nanos % 1_000_000_000

instance : LE Duration := ⟨fun a b => a.nanos ≤ b.nanos⟩

instance : LT Duration := ⟨fun a b => a.nanos < b.nanos⟩

instance (a b : Duration) : Decidable (a ≤ b) := inferInstanceAs (Decidable (a.nanos ≤ b.nanos))

instance (a b : Duration) : Decidable (a < b) := inferInstanceAs (Decidable (a.nanos < b.nanos))

instance : Min Duration := ⟨fun a b => if a ≤ b then a else b⟩

def scale (d : Duration) (k : Nat) : Duration := saturating (d.nanos * k)

/-- The largest of s, ms, µs and ns that is not zero, with a fraction without trailing zeros. -/
def text (d : Duration) : String :=
  if 1_000_000_000 ≤ d.nanos then Text.withFraction d.seconds d.subsecond 9 ++ "s"
  else if 1_000_000 ≤ d.nanos then Text.withFraction (d.nanos / 1_000_000) (d.nanos % 1_000_000) 6 ++ "ms"
  else if 1_000 ≤ d.nanos then Text.withFraction (d.nanos / 1_000) (d.nanos % 1_000) 3 ++ "µs"
  else Text.natText d.nanos ++ "ns"

end Duration

end Outbox
