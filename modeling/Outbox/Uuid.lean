import Outbox.Text.Hex

namespace Outbox

structure Uuid where
  value : Nat
  value_lt : value < 0x1_0000_0000_0000_0000_0000_0000_0000_0000
deriving DecidableEq

namespace Uuid

instance : Inhabited Uuid := ⟨⟨0, by decide⟩⟩

instance : LE Uuid := ⟨fun a b => a.value ≤ b.value⟩

instance : LT Uuid := ⟨fun a b => a.value < b.value⟩

instance (a b : Uuid) : Decidable (a ≤ b) := inferInstanceAs (Decidable (a.value ≤ b.value))

instance (a b : Uuid) : Decidable (a < b) := inferInstanceAs (Decidable (a.value < b.value))

def of? (n : Nat) : Option Uuid := if h : n < 0x1_0000_0000_0000_0000_0000_0000_0000_0000 then some ⟨n, h⟩ else none

def ofNat (n : Nat) : Uuid := ⟨n % 0x1_0000_0000_0000_0000_0000_0000_0000_0000, Nat.mod_lt _ (by decide)⟩

def ofWord (n : UInt64) : Uuid := ⟨n.toNat, by
  have := n.toNat_lt
  omega⟩

def simpleChars (u : Uuid) : List Char := Text.hexDigits 32 u.value

def simple (u : Uuid) : String := String.ofList u.simpleChars

def hyphenated (ds : List Char) : List Char :=
  ds.take 8 ++ '-' :: (ds.drop 8).take 4 ++ '-' :: (ds.drop 12).take 4 ++ '-' :: (ds.drop 16).take 4 ++
    '-' :: ds.drop 20

def text (u : Uuid) : String := String.ofList (hyphenated u.simpleChars)

def version (u : Uuid) : Nat := u.value / 0x1000_0000_0000_0000_0000 % 16

def isStandardVariant (u : Uuid) : Bool := u.value / 0x4000_0000_0000_0000 % 4 == 2

end Uuid

end Outbox
