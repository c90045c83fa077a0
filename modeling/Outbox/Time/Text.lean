import Outbox.Time

namespace Outbox.Time

open Text

/-- Four digits within the years 0 to 9999, else a sign and at least four digits. -/
def yearText (y : Int) : String :=
  if 0 ≤ y ∧ y ≤ 9999 then zeroPad 4 y.toNat
  else
    let sign := if y < 0 then "-" else "+"
    sign ++ (if y.natAbs < 10_000 then zeroPad 4 y.natAbs else natText y.natAbs)

def dateText (d : Date) : String := yearText d.year ++ "-" ++ zeroPad 2 d.month ++ "-" ++ zeroPad 2 d.day

/-- No, three, six or nine places, the fewest that lose nothing. -/
def fractionText (n : Nat) : String :=
  if n = 0 then ""
  else if n % 1_000_000 = 0 then "." ++ zeroPad 3 (n / 1_000_000)
  else if n % 1_000 = 0 then "." ++ zeroPad 6 (n / 1_000)
  else "." ++ zeroPad 9 n

def clockText (t : Time) : String :=
  zeroPad 2 t.hour ++ ":" ++ zeroPad 2 t.minute ++ ":" ++ zeroPad 2 t.second ++ fractionText t.fraction

def text (t : Time) : String := dateText t.date ++ "T" ++ clockText t ++ "Z"

def spacedText (t : Time) : String := dateText t.date ++ " " ++ clockText t ++ " UTC"

end Outbox.Time
