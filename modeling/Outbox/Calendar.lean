namespace Outbox

structure Date where
  year : Int
  month : Nat
  day : Nat
deriving DecidableEq

namespace Date

/-- Days since 1 January 1970. Years start in March here, so that a leap day ends one, and 400 of
them always have 146097 days. -/
def toDays (d : Date) : Int :=
  let year := if d.month ≤ 2 then d.year - 1 else d.year
  let month : Int := if d.month ≤ 2 then d.month + 9 else d.month - 3
  let era := year / 400
  let yearOfEra := year - era * 400
  let dayOfYear := (153 * month + 2) / 5 + d.day - 1
  era * 146097 + (yearOfEra * 365 + yearOfEra / 4 - yearOfEra / 100 + dayOfYear) - 719468

def ofDays (n : Int) : Date :=
  let z := n + 719468
  let era := z / 146097
  let dayOfEra := z - era * 146097
  let yearOfEra := (dayOfEra - dayOfEra / 1460 + dayOfEra / 36524 - dayOfEra / 146096) / 365
  let dayOfYear := dayOfEra - (yearOfEra * 365 + yearOfEra / 4 - yearOfEra / 100)
  let month := (5 * dayOfYear + 2) / 153
  let day := dayOfYear - (153 * month + 2) / 5 + 1
  if month < 10 then ⟨yearOfEra + era * 400, (month + 3).toNat, day.toNat⟩
  else ⟨yearOfEra + era * 400 + 1, (month - 9).toNat, day.toNat⟩

/-- A date exists when it is the date of the day that it numbers. -/
def Exists (d : Date) : Prop := ofDays d.toDays = d

instance (d : Date) : Decidable d.Exists := inferInstanceAs (Decidable (_ = _))

end Date

end Outbox
