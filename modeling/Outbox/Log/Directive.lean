import Outbox.Log
import Outbox.Text.Alphanumeric
import Outbox.Text.Blank
import Outbox.Text.Bytes
import Outbox.Text.Numeral
import Outbox.Text.Pattern.Reader
import Outbox.Text.Pieces

namespace Outbox

abbrev Threshold := Option Level

def Threshold.rank (t : Threshold) : Nat := t.elim 0 Level.rank

def Threshold.max (t u : Threshold) : Threshold := if t.rank ≤ u.rank then u else t

/-- What a field of a span may be asked for: a count, or a text that fits a pattern, which is written in
some way. No field is a flag or a number of another kind. -/
inductive FieldTest
  | count (n : Nat)
  | pattern (written : String) (p : Text.Pattern)
  | unmet
deriving DecidableEq

/-- A threshold for what has a target that starts with a text, for the spans of a name, and for what has
a certain field, whose value may be asked for, as far as these are given. -/
structure Directive where
  target : Option String
  span : Option String
  field : Option (String × Option FieldTest)
  threshold : Threshold
deriving DecidableEq

namespace FieldTest

def isDigits (cs : List Char) : Bool := cs.all Char.isDigit

def unsigned : List Char → List Char
  | '+' :: cs | '-' :: cs => cs
  | cs => cs

def isDecimal (cs : List Char) : Bool :=
  let significand := cs.takeWhile fun c => c ≠ 'e' && c ≠ 'E'
  let whole := significand.takeWhile (· ≠ '.')
  let places := (significand.drop whole.length).drop 1
  let exponent := cs.drop significand.length
  isDigits whole && isDigits places && !(whole.isEmpty && places.isEmpty) &&
    (exponent.isEmpty || isDigits (unsigned exponent.tail) && !(unsigned exponent.tail).isEmpty)

def isNumber (cs : List Char) : Bool :=
  let cs := unsigned cs
  isDecimal cs || ["inf", "infinity", "nan"].contains (Text.asciiLower (String.ofList cs))

def read? (s : String) : Option FieldTest :=
  match Text.numeral (0x1_0000_0000_0000_0000) s with
  | .ok n => some (.count n)
  | .error _ =>
    if s = "true" ∨ s = "false" ∨ isNumber s.toList then some .unmet
    else (Text.Pattern.ofText? s).map (.pattern s)

def holds : FieldTest → LogValue → Bool
  | .count n, .number k => k == n
  | .pattern _ p, .quoted s | .pattern _ p, .shown s => p.fits s
  | _, _ => false

end FieldTest

namespace Directive

/-- A text that is no directive, or whose parts start or end inside a character. -/
inductive Fault
  | malformed
  | torn
deriving DecidableEq

abbrev Reading := Except Fault

/-- A level by its name in any case, or by its number; zero is off. -/
def threshold? (s : String) : Option Threshold :=
  let byName : List (String × Threshold) :=
    [("off", none), ("error", some .error), ("warn", some .warn), ("info", some .info), ("debug", some .debug),
      ("trace", some .trace)]
  match Text.numeral (0x1_0000_0000_0000_0000) s with
  | .ok n => (byName[n]?).map (·.2)
  | .error _ => byName.lookup (Text.asciiLower s)

def mayStart (c : Char) : Bool := Text.isAlphanumeric c || c == '-' || c == ':' || c == '_'

section Parts

/- Places are found in a directive without the blanks around it, and parts are cut out of the whole:
blanks in front shift what is cut out. -/
variable (whole : List Char)

def cut (start stop : Nat) : Reading String :=
  match Text.slice? start stop whole with
  | some cs => .ok (String.ofList cs)
  | none => .error .torn

def thresholdFrom (start : Nat) : Reading Threshold :=
  match Text.afterBytes? start whole with
  | none => .error .torn
  | some [] => .ok (some .trace)
  | some cs =>
    match threshold? (String.ofList cs) with
    | some t => .ok t
    | none => .error .malformed

def thresholdAfter (start : Nat) : List Char → Reading Threshold
  | [] => .ok (some .trace)
  | '=' :: _ => thresholdFrom whole (start + 1)
  | _ => .error .malformed

def fieldOf (s : String) : Reading (String × Option FieldTest) :=
  match Text.pieces '=' s.toList with
  | name :: test :: _ =>
    match FieldTest.read? (String.ofList test) with
    | some t => .ok (String.ofList name, some t)
    | none => .error .malformed
  | _ => .ok (s, none)

def bracketed (target : Option String) (start : Nat) (cs : List Char) : Reading Directive := do
  let name := cs.takeWhile fun c => c ≠ ']' && c ≠ '\x7b'
  let stop := start + Text.utf8Length name
  match cs.drop name.length with
  | ']' :: rest => return ⟨target, some (← cut whole start stop), none, ← thresholdAfter whole (stop + 1) rest⟩
  | '\x7b' :: rest => do
    let span ← cut whole start stop
    let inner := rest.takeWhile (· ≠ '\x7d')
    let close := stop + 1 + Text.utf8Length inner
    match rest.drop inner.length with
    | '\x7d' :: rest => do
      let text ← cut whole (stop + 1) close
      if text.isEmpty then throw .malformed
      else
        let field ← fieldOf text
        match rest with
        | ']' :: rest => do
          let threshold ← thresholdAfter whole (close + 2) rest
          return ⟨target, if span.isEmpty then none else some span, some field, threshold⟩
        | _ => throw .malformed
    | _ => throw .malformed
  | _ => throw .malformed

/-- A level, a target, or a target or brackets or both with a level. -/
def read : Reading Directive :=
  match Text.trimmed whole with
  | [] => .error .malformed
  | '[' :: rest => bracketed whole none 1 rest
  | c :: cs =>
    let head := (c :: cs).takeWhile fun c => c ≠ '=' && c ≠ '['
    let stop := Text.utf8Length head
    if !mayStart c then .error .malformed
    else match (c :: cs).drop head.length with
      | '=' :: _ => do
        let target ← cut whole 0 stop
        return ⟨some target, none, none, ← thresholdFrom whole (stop + 1)⟩
      | '[' :: rest => do bracketed whole (some (← cut whole 0 stop)) (stop + 1) rest
      | _ =>
        match threshold? (String.ofList whole) with
        | some t => .ok ⟨none, none, none, t⟩
        | none => .ok ⟨some (String.ofList whole), none, none, some .trace⟩

end Parts

variable (d : Directive)

def test? : Option FieldTest := d.field.bind (·.2)

def isForEvents : Bool := d.span.isNone && (test? d).isNone

def isForSpans : Bool := d.span.isSome || d.field.isSome

def coversTarget (target : String) : Bool := d.target.all fun t => t.toList.isPrefixOf target.toList

def covers (e : LogEvent) : Bool := coversTarget d e.target && d.field.all fun f => e.fields.any (·.1 == f.1)

def meansSpan (span : LogSpan) : Bool :=
  isForSpans d && coversTarget d span.target && d.span.all (· == span.name) &&
    d.field.all fun (name, _) => span.fields.any (·.1 == name)

def coversSpan (span : LogSpan) : Bool :=
  meansSpan d span && d.field.all fun (name, test?) =>
    test?.all fun test => (span.fields.lookup name).join.any test.holds

def isAlike (a b : Directive) : Bool := a.target == b.target && a.span == b.span && a.field == b.field

/-- Of directives for events: longer targets are more specific, any target is more specific than none,
and then any field than none. -/
def isAtMost (a b : Directive) : Bool :=
  let weight (d : Directive) : Nat := d.target.elim 0 (·.utf8ByteSize + 1)
  ((compare (weight a) (weight b)).then (compare (a.field.map (·.1)) (b.field.map (·.1)))).isLE

end Directive

end Outbox
