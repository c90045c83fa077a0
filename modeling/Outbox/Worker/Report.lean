namespace Outbox

/-- What became of a claimed row. A row is left unwritten when the store refuses its resolution. -/
inductive Resolution
  | published
  | retried
  | deadLettered
  | unchanged
  | unwritten
deriving DecidableEq

structure Report where
  claimed : Nat
  published : Nat
  retried : Nat
  deadLettered : Nat
  storeErrors : Nat
deriving DecidableEq

namespace Report

def ofClaimed (n : Nat) : Report := ⟨n, 0, 0, 0, 0⟩

def count (r : Report) : Resolution → Report
  | .published => { r with published := r.published + 1 }
  | .retried => { r with retried := r.retried + 1 }
  | .deadLettered => { r with deadLettered := r.deadLettered + 1 }
  | .unchanged => r
  | .unwritten => { r with storeErrors := r.storeErrors + 1 }

end Report

structure Tally where
  iterations : Nat
  claimed : Nat
  published : Nat
  retried : Nat
  deadLettered : Nat
  storeErrors : Nat
deriving DecidableEq

namespace Tally

def zero : Tally := ⟨0, 0, 0, 0, 0, 0⟩

def absorb (t : Tally) (r : Report) : Tally :=
  ⟨t.iterations + 1, t.claimed + r.claimed, t.published + r.published, t.retried + r.retried,
    t.deadLettered + r.deadLettered, t.storeErrors + r.storeErrors⟩

def refuse (t : Tally) : Tally := { t with iterations := t.iterations + 1, storeErrors := t.storeErrors + 1 }

end Tally

end Outbox
