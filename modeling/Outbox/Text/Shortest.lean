import Outbox.Text.Decimal

namespace Outbox.Text

/-- The positive number `mantissa * 2 ^ exponent`, as 64 bits of floating point hold it. -/
structure Binary where
  mantissa : Nat
  exponent : Int
deriving DecidableEq

namespace Binary

def ofBits (bits : UInt64) : Binary :=
  let fraction : Nat := bits.toNat % 0x10_0000_0000_0000
  let biased : Nat := bits.toNat / 0x10_0000_0000_0000 % 0x800
  if biased = 0 then ⟨fraction, -1074⟩ else ⟨fraction + 0x10_0000_0000_0000, Int.ofNat biased - 1075⟩

/-- Over a common denominator: the number, and the ends of the interval that rounds to it. -/
def bounds (b : Binary) : Nat × Nat × Nat × Nat :=
  let below := if b.mantissa = 0x10_0000_0000_0000 ∧ -1074 < b.exponent then 1 else 2
  let numerator (n : Nat) := if 0 ≤ b.exponent then n * Nat.pow 2 b.exponent.toNat else n
  let denominator := if 0 ≤ b.exponent then 4 else 4 * Nat.pow 2 (-b.exponent).toNat
  (numerator (4 * b.mantissa), numerator (4 * b.mantissa - below), numerator (4 * b.mantissa + 2), denominator)

def magnitude (numerator denominator : Nat) : Nat → Int → Int
  | 0, e => e
  | fuel + 1, e =>
    let fits :=
      if 0 ≤ e then Nat.pow 10 e.toNat * denominator ≤ numerator
      else denominator ≤ numerator * Nat.pow 10 (-e).toNat
    if fits then e else magnitude numerator denominator fuel (e - 1)

def onGrid? (b : Binary) (unit : Int) : Option Nat :=
  let (middle, low, high, denominator) := b.bounds
  let scaled (n : Nat) := if 0 ≤ unit then n else n * Nat.pow 10 (-unit).toNat
  let step := if 0 ≤ unit then denominator * Nat.pow 10 unit.toNat else denominator
  let inside (k : Nat) :=
    if b.mantissa % 2 = 0 then scaled low ≤ k * step ∧ k * step ≤ scaled high
    else scaled low < k * step ∧ k * step < scaled high
  let down := scaled middle / step
  let up := down + 1
  let gapDown := scaled middle - down * step
  let gapUp := up * step - scaled middle
  if inside down ∧ (¬ inside up ∨ gapDown < gapUp ∨ gapDown = gapUp ∧ down % 2 = 0) then some down
  else if inside up then some up
  else none

/-- Digits and the power of ten they count, the fewest digits that read back as the number. -/
def shortest (b : Binary) : Nat × Int :=
  let (middle, _, _, denominator) := b.bounds
  let top := magnitude middle denominator 640 310
  let units := (List.range 17).map fun (n : Nat) => top - Int.ofNat n
  match units.findSome? fun unit => (b.onGrid? unit).map (·, unit) with
  | some found => found
  | none => (0, 0)

end Binary

/-- Where the point goes: within 16 digits or after at most five zeros it is written out, else the
number has an exponent with its sign. -/
def pointed (digits : List Char) (power : Int) : String :=
  let point : Int := digits.length + power
  if 0 ≤ power ∧ point ≤ 16 then String.ofList (digits ++ List.replicate power.toNat '0' ++ ['.', '0'])
  else if 0 < point ∧ point ≤ 16 then
    String.ofList (digits.take point.toNat ++ '.' :: digits.drop point.toNat)
  else if -5 < point ∧ point ≤ 0 then
    String.ofList ('0' :: '.' :: List.replicate (-point).toNat '0' ++ digits)
  else
    let mantissa := match digits with
      | [] => []
      | [d] => [d]
      | d :: ds => d :: '.' :: ds
    String.ofList mantissa ++ (if 0 < point then "e+" else "e-") ++ natText (point - 1).natAbs

def floatText (x : Float) : String :=
  let bits := x.toBits
  let sign := if bits.toNat < 0x8000_0000_0000_0000 then "" else "-"
  if bits.toNat % 0x8000_0000_0000_0000 = 0 then sign ++ "0.0"
  else
    let (digits, power) := (Binary.ofBits bits).shortest
    let kept := dropTrailing '0' (Nat.toDigits 10 digits)
    sign ++ pointed kept (power + ((Nat.toDigits 10 digits).length - kept.length : Nat))

end Outbox.Text
