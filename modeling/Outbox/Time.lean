import Outbox.Calendar
import Outbox.Duration

namespace Outbox

/-- A moment in UTC: seconds since 1970 and nanoseconds into that second. A leap second is the
second half of a second twice as long, which ends its minute. -/
structure Time where
  seconds : Int
  nanos : Nat
  seconds_ge : -8334601228800 ≤ seconds
  seconds_le : seconds ≤ 8210266876799
  nanos_lt : nanos < 2_000_000_000
  leap : 1_000_000_000 ≤ nanos → seconds % 60 = 59
deriving DecidableEq

namespace Time

def earliest : Time := ⟨-8334601228800, 0, by decide, by decide, by decide, by decide⟩

/-- The last nanosecond of the calendar that is in no leap second. -/
def latest : Time := ⟨8210266876799, 999999999, by decide, by decide, by decide, by decide⟩

def epoch : Time := ⟨0, 0, by decide, by decide, by decide, by decide⟩

instance : Inhabited Time := ⟨epoch⟩

def of? (seconds : Int) (nanos : Nat) : Option Time :=
  if h : (-8334601228800 ≤ seconds ∧ seconds ≤ 8210266876799) ∧
      nanos < 2_000_000_000 ∧ (1_000_000_000 ≤ nanos → seconds % 60 = 59) then
    some ⟨seconds, nanos, h.1.1, h.1.2, h.2.1, h.2.2⟩
  else none

/-- Order by second, then by nanosecond: each second has room for two billion of them. -/
def rank (t : Time) : Int := t.seconds * (2_000_000_000) + t.nanos

instance : LE Time := ⟨fun a b => a.rank ≤ b.rank⟩

instance : LT Time := ⟨fun a b => a.rank < b.rank⟩

instance (a b : Time) : Decidable (a ≤ b) := inferInstanceAs (Decidable (a.rank ≤ b.rank))

instance (a b : Time) : Decidable (a < b) := inferInstanceAs (Decidable (a.rank < b.rank))

theorem rank_injective {a b : Time} (h : a.rank = b.rank) : a = b := by
  have ha := a.nanos_lt
  have hb := b.nanos_lt
  unfold rank at h
  have hs : a.seconds = b.seconds := by omega
  have hn : a.nanos = b.nanos := by omega
  cases a
  cases b
  simp_all

def settle? (s n : Int) : Option Time := of? (s + n / 1_000_000_000) (n % 1_000_000_000).toNat

/-- The moment `delta` nanoseconds away. A leap second counts only for a delta within it. -/
def shift? (t : Time) (delta : Int) : Option Time :=
  if t.nanos < 1_000_000_000 then settle? t.seconds (t.nanos + delta)
  else if 1_000_000_000 ≤ delta ∨ 2_000_000_000 ≤ t.nanos + delta then
    settle? t.seconds (t.nanos - 1_000_000_000 + delta)
  else if delta ≤ -1_000_000_000 then settle? (t.seconds + 1) (t.nanos - 1_000_000_000 + delta)
  else of? t.seconds (t.nanos + delta).toNat

def plus? (t : Time) (d : Duration) : Option Time := t.shift? d.nanos

def date (t : Time) : Date := .ofDays (t.seconds / 86400)

def secondOfDay (t : Time) : Nat := (t.seconds % 86400).toNat

def hour (t : Time) : Nat := t.secondOfDay / 3600

def minute (t : Time) : Nat := t.secondOfDay / 60 % 60

def second (t : Time) : Nat := t.secondOfDay % 60 + t.nanos / 1_000_000_000

def fraction (t : Time) : Nat := t.nanos % 1_000_000_000

end Time

end Outbox
