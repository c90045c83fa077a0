import Outbox.Text.Blank
import Outbox.Time

namespace Outbox.Time

open Text

inductive Misread
  | outOfRange
  | impossible
  | invalid
  | tooShort
  | tooLong
deriving DecidableEq

def Misread.message : Misread → String
  | .outOfRange => "input is out of range"
  | .impossible => "no possible date and time matching input"
  | .invalid => "input contains invalid characters"
  | .tooShort => "premature end of input"
  | .tooLong => "trailing input"

def digitsValue (ds : List Char) : Nat := ds.foldl (fun n d => n * 10 + (d.toNat - '0'.toNat)) 0

def below? (limit : Nat) (ds : List Char) : Option Nat :=
  ds.foldlM (fun n d => some (n * 10 + (d.toNat - '0'.toNat)) |>.filter (· < limit)) 0

/-- A number written in the leading digits of `cs`, of which `window` is the part that may be read. -/
def number (window cs : List Char) : Except Misread (Nat × List Char) :=
  let ds := window.takeWhile Char.isDigit
  if cs.isEmpty then .error .tooShort
  else if ds.isEmpty then .error .invalid
  else match below? 0x8000_0000_0000_0000 ds with
    | some n => .ok (n, cs.drop ds.length)
    | none => .error .outOfRange

/-- A signed year has any number of digits, one without a sign at most four. -/
def year (cs : List Char) : Except Misread (Int × List Char) := do
  let (y, rest) ← match trimStart cs with
    | '-' :: cs => (number cs cs).map fun (n, rest) => (-(n : Int), rest)
    | '+' :: cs => (number cs cs).map fun (n, rest) => ((n : Int), rest)
    | cs => (number (cs.take 4) cs).map fun (n, rest) => ((n : Int), rest)
  if -0x8000_0000 ≤ y ∧ y < 0x8000_0000 then return (y, rest) else throw .outOfRange

def twoDigits (low high : Nat) (cs : List Char) : Except Misread (Nat × List Char) := do
  let cs := trimStart cs
  let (n, rest) ← number (cs.take 2) cs
  if low ≤ n ∧ n ≤ high then return (n, rest) else throw .outOfRange

def separator (c : Char) (cs : List Char) : Except Misread (List Char) :=
  match trimStart cs with
  | [] => .error .tooShort
  | d :: rest => if d = c then .ok rest else .error .invalid

def dateTimeMark : List Char → Except Misread (List Char)
  | 'T' :: rest | 't' :: rest | ' ' :: rest => .ok rest
  | [] => .error .tooShort
  | _ => .error .invalid

def fraction? : List Char → Except Misread (Nat × List Char)
  | '.' :: cs => do
    let ds := (cs.take 9).takeWhile Char.isDigit
    let (n, rest) ← number ds cs
    return (n * Nat.pow 10 (9 - ds.length), rest.dropWhile Char.isDigit)
  | cs => .ok (0, cs)

def pair (cs : List Char) (high : Char) : Except Misread (Nat × List Char) :=
  match cs with
  | a :: b :: rest =>
    if a.isDigit ∧ b.isDigit then
      if a ≤ high then .ok (digitsValue [a, b], rest) else .error .outOfRange
    else .error .invalid
  | [a] => if a.utf8Size = 1 then .error .tooShort else .error .invalid
  | [] => .error .tooShort

def hoursAndMinutes (cs : List Char) : Except Misread (Int × List Char) := do
  let (hours, cs) ← pair cs '9'
  let (minutes, rest) ← pair (cs.dropWhile fun c => c = ':' ∨ isBlank c) '5'
  return (hours * 3600 + minutes * 60, rest)

def offset (cs : List Char) : Except Misread (Int × List Char) :=
  match trimStart cs with
  | 'Z' :: rest | 'z' :: rest => .ok (0, rest)
  | '+' :: rest => hoursAndMinutes rest
  | '-' :: rest | '\u2212' :: rest => (hoursAndMinutes rest).map fun (s, rest) => (-s, rest)
  | [] => .error .tooShort
  | cs => if (cs.take 3).map Char.toLower = ['u', 't', 'c'] then .ok (0, cs.drop 3) else .error .invalid

def assemble (d : Date) (hour minute second nanos : Nat) (east : Int) : Except Misread Time :=
  let midnight := d.toDays * 86400
  if ¬ d.Exists ∨ midnight < earliest.seconds ∨ latest.seconds < midnight ∨ 86400 ≤ east.natAbs then
    .error .outOfRange
  else
    let held := if second = 60 then 59 else second
    let nanos := if second = 60 then nanos + 1_000_000_000 else nanos
    match of? (midnight + hour * 3600 + minute * 60 + held - east) nanos with
    | some t => .ok t
    | none => .error .impossible

def readChars (cs : List Char) : Except Misread Time := do
  let (y, cs) ← year cs
  let (month, cs) ← twoDigits 1 12 (← separator '-' cs)
  let (day, cs) ← twoDigits 1 31 (← separator '-' cs)
  let (hour, cs) ← twoDigits 0 23 (← dateTimeMark cs)
  let (minute, cs) ← twoDigits 0 59 (← separator ':' cs)
  let (second, cs) ← twoDigits 0 60 (← separator ':' cs)
  let (nanos, cs) ← fraction? cs
  let (east, cs) ← offset cs
  if trimStart cs = [] then assemble ⟨y, month, day⟩ hour minute second nanos east
  else throw .tooLong

def read (s : String) : Except Misread Time := readChars s.toList

end Outbox.Time
