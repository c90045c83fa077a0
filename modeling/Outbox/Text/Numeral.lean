import Outbox.Text.Decimal

namespace Outbox.Text

inductive NumeralError
  | empty
  | digit
  | tooLarge
deriving DecidableEq

def NumeralError.message : NumeralError → String
  | .empty => "cannot parse integer from empty string"
  | .digit => "invalid digit found in string"
  | .tooLarge => "number too large to fit in target type"

namespace Numeral

/-- Reads on from `n`. The first fault counts, and no digit is looked at once the bound is passed. -/
def digits (bound : Nat) : Nat → List Char → Except NumeralError Nat
  | n, [] => .ok n
  | n, c :: cs =>
    match digitValue? c with
    | none => .error .digit
    | some d => if n * 10 + d < bound then digits bound (n * 10 + d) cs else .error .tooLarge

def ofChars (bound : Nat) : List Char → Except NumeralError Nat
  | [] => .error .empty
  | ['+'] => .error .digit
  | '+' :: cs => digits bound 0 cs
  | cs => digits bound 0 cs

end Numeral

def numeral (bound : Nat) (s : String) : Except NumeralError Nat := Numeral.ofChars bound s.toList

end Outbox.Text
