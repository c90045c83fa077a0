import Outbox.Json.Problem
import Outbox.Text.Numeral

namespace Outbox.Json

structure Reason where
  words : String
  position : Option Position
deriving DecidableEq

namespace Reason

def after? (beginning : String) (cs : List Char) : Option (List Char) :=
  let bs := beginning.toList
  if bs.isPrefixOf cs then some (cs.drop bs.length) else none

def number? (cs : List Char) : Option (Nat × List Char) :=
  let ds := cs.takeWhile Char.isDigit
  match Text.Numeral.ofChars (0x1_0000_0000_0000_0000) ds with
  | .ok n => some (n, cs.drop ds.length)
  | .error _ => none

def position? (cs : List Char) : Option Position := do
  let (line, cs) ← number? (← after? " at line " cs)
  let (column, cs) ← number? (← after? " column " cs)
  if cs.isEmpty then some ⟨line, column⟩ else none

def cut? : List Char → Option (List Char × Position)
  | [] => none
  | c :: cs =>
    match position? (c :: cs) with
    | some p => some ([], p)
    | none => (cut? cs).map fun (words, p) => (c :: words, p)

/-- A position at the end of a text is no part of the words. Lines count from one, so that one on line
zero is nowhere. -/
def read (s : String) : Reason :=
  match cut? s.toList with
  | some (words, p) => ⟨String.ofList words, if p.line = 0 then none else some p⟩
  | none => ⟨s, none⟩

def message (r : Reason) : String := r.words ++ r.position.elim "" Position.text

end Reason

end Outbox.Json
