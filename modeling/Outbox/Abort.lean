namespace Outbox

/-- A machine limit at which a computation stops without an answer. -/
inductive Abort
  | calendar
  | counter
  | memory
  | text
deriving DecidableEq

def Abort.message : Abort → String
  | .calendar => "`DateTime + TimeDelta` overflowed"
  | .counter => "attempt to add with overflow"
  | .memory => "capacity overflow"
  | .text => "byte index is not a char boundary"

def Abort.exitCode : Nat := 101

end Outbox
