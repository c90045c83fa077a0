import Outbox.Text.Blank
import Outbox.Text.Hex
import Outbox.Text.Pattern

namespace Outbox.Text.Pattern

structure Mode where
  isCaseless : Bool
  isMultiline : Bool
  dotIsAll : Bool
  isLazy : Bool
  isOfBytes : Bool
  hasCarriageReturns : Bool
  isSpaced : Bool

namespace Mode

def standard : Mode := ⟨false, false, false, false, false, false, false⟩

def set? (m : Mode) (on : Bool) : Char → Option Mode
  | 'i' => some { m with isCaseless := on }
  | 'm' => some { m with isMultiline := on }
  | 's' => some { m with dotIsAll := on }
  | 'U' => some { m with isLazy := on }
  | 'u' => some { m with isOfBytes := !on }
  | 'R' => some { m with hasCarriageReturns := on }
  | 'x' => some { m with isSpaced := on }
  | _ => none

/-- Letters to set and, after a hyphen, letters to clear. No letter comes twice, and no hyphen last. -/
def switched? (m : Mode) (letters : List Char) : Option Mode :=
  let (on, off) := (letters.takeWhile (· ≠ '-'), letters.dropWhile (· ≠ '-'))
  if !letters.Nodup ∨ off = ['-'] then none
  else do off.tail.foldlM (·.set? false ·) (← on.foldlM (·.set? true ·) m)

def skip (m : Mode) (cs : List Char) : List Char := if m.isSpaced then go cs false else cs
where
  go : List Char → Bool → List Char
    | [], _ => []
    | c :: cs, inComment =>
      if inComment then go cs (c ≠ '\n')
      else if isBlank c then go cs false
      else if c = '#' then go cs true
      else c :: cs

end Mode

inductive Escaped
  | letter (c : Char)
  | place (p : Place)
  | set (s : CharSet)

def hexLetter (m : Mode) (isByte : Bool) : Nat → Nat → List Char → Option (Escaped × List Char)
  | 0, n, cs =>
    if n.isValidChar && !(isByte && m.isOfBytes && 0x7f < n) then some (.letter (Char.ofNat n), cs) else none
  | digits + 1, n, cs =>
    match m.skip cs with
    | [] => none
    | c :: cs => do hexLetter m isByte digits (n * 16 + (← hexValue? c)) cs

/-- Any sign of ASCII may be escaped, apart from those that say an edge of a word. -/
def isSign (c : Char) : Bool := c.toNat < 0x80 && !c.isAlphanum && c != '<' && c != '>'

/-- An escape, its backslash already passed. Words and their kin are known in ASCII alone. -/
def escape (m : Mode) : List Char → Option (Escaped × List Char)
  | [] => none
  | c :: cs =>
    let ascii (e : Escaped) := if m.isOfBytes then some (e, cs) else none
    match c with
    | 'x' => hexLetter m true 2 0 cs
    | 'u' => hexLetter m false 4 0 cs
    | 'U' => hexLetter m false 8 0 cs
    | 'd' => ascii (.set .digit)
    | 's' => ascii (.set .space)
    | 'w' => ascii (.set .word)
    | 'b' => ascii (.place .wordEdge)
    | 'B' => ascii (.place .notWordEdge)
    | '<' => ascii (.place .wordStart)
    | '>' => ascii (.place .wordEnd)
    | 'A' => some (.place .textStart, cs)
    | 'z' => some (.place .textEnd, cs)
    | 'a' => some (.letter '\x07', cs)
    | 'f' => some (.letter '\x0c', cs)
    | 't' => some (.letter '\t', cs)
    | 'n' => some (.letter '\n', cs)
    | 'r' => some (.letter '\r', cs)
    | 'v' => some (.letter '\x0b', cs)
    | c => if isSign c then some (.letter c, cs) else none

end Outbox.Text.Pattern
