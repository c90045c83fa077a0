namespace Outbox.Text

def digitChar (n : Nat) : Char := Char.ofNat ('0'.toNat + n % 10)

def padded : Nat → Nat → List Char
  | 0, _ => []
  | width + 1, n => padded width (n / 10) ++ [digitChar n]

def zeroPad (width n : Nat) : String := String.ofList (padded width n)

def natText (n : Nat) : String := String.ofList (Nat.toDigits 10 n)

def dropTrailing (c : Char) (cs : List Char) : List Char := (cs.reverse.dropWhile (· == c)).reverse

/-- A count of units and its fraction, `width` places wide, written without trailing zeros. -/
def withFraction (whole fraction width : Nat) : String :=
  match dropTrailing '0' (padded width fraction) with
  | [] => natText whole
  | places => natText whole ++ "." ++ String.ofList places

def digitValue? (c : Char) : Option Nat := if c.isDigit then some (c.toNat - '0'.toNat) else none

end Outbox.Text
