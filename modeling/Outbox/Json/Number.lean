import Outbox.Json.Reader
import Outbox.Text.Shortest

namespace Outbox.Json.Number

def gather (limit : Nat) : Nat → Nat → List Char → Nat × Nat × List Char
  | n, count, c :: cs =>
    if c.isDigit ∧ n * 10 + (c.toNat - '0'.toNat) < limit then
      gather limit (n * 10 + (c.toNat - '0'.toNat)) (count + 1) cs
    else (n, count, c :: cs)
  | n, count, [] => (n, count, [])

def significandLimit : Nat := 0x1_0000_0000_0000_0000

def exponentLimit : Nat := 0x8000_0000

def tenTo (n : Nat) : Float := Float.ofScientific 1 false n

/-- Scaled by one power of ten of at most 308, in several steps if need be; none if too large. -/
def scaled? (x : Float) (exponent : Int) : Option Float :=
  if exponent < -308 then
    if x == 0 then some x else scaled? (x / tenTo 308) (exponent + 308)
  else if exponent < 0 then some (x / tenTo exponent.natAbs)
  else if exponent ≤ 308 then
    let y := x * tenTo exponent.natAbs
    if y.isInf then none else some y
  else if x == 0 then some x
  else none
termination_by (-exponent).toNat
decreasing_by omega

def float (positive : Bool) (significand : Nat) (exponent : Int) (rest : List Char) :
    Except Failure (Found × List Char) :=
  match scaled? (Float.ofNat significand) exponent with
  | some x => .ok (.float (Text.floatText (if positive then x else -x)), rest)
  | none => .error (.here .numberRange rest)

def exponent (positive : Bool) (significand : Nat) (start : Int) (cs : List Char) :
    Except Failure (Found × List Char) :=
  let (up, cs) := match cs with
    | '+' :: cs => (true, cs)
    | '-' :: cs => (false, cs)
    | cs => (true, cs)
  match cs with
  | [] => .error (.here .endInValue [])
  | c :: cs' =>
    if ¬ c.isDigit then .error (.ahead .number (c :: cs') 1)
    else
      let (n, _, rest) := gather exponentLimit 0 0 cs
      match rest with
      | c :: beyond =>
        if ¬ c.isDigit then float positive significand (if up then start + n else start - n) rest
        else if significand ≠ 0 ∧ up then .error (.here .numberRange beyond)
        else float positive 0 0 (beyond.dropWhile Char.isDigit)
      | [] => float positive significand (if up then start + n else start - n) []

def ending (positive : Bool) (significand : Nat) (power : Int) (cs : List Char) :
    Except Failure (Found × List Char) :=
  match cs with
  | c :: rest =>
    if c = 'e' ∨ c = 'E' then exponent positive significand power rest
    else float positive significand power cs
  | [] => float positive significand power []

/-- What follows the point: digits beyond the range of the significand are passed over. -/
def fraction (positive : Bool) (significand : Nat) (power : Int) (cs : List Char) :
    Except Failure (Found × List Char) :=
  let (significand, count, rest) := gather significandLimit significand 0 cs
  match rest with
  | c :: _ =>
    if c.isDigit then ending positive significand (power - count) (rest.dropWhile Char.isDigit)
    else if count = 0 then .error (.next .number rest)
    else ending positive significand (power - count) rest
  | [] => if count = 0 then .error (.here .endInValue []) else ending positive significand (power - count) []

def isFractional : List Char → Bool
  | c :: _ => c == '.' || c == 'e' || c == 'E'
  | [] => false

def integer (positive : Bool) (significand : Nat) : Found :=
  if positive then .integer significand
  else if significand = 0 ∨ 0x8000_0000_0000_0000 < significand then
    .float (Text.floatText (-Float.ofNat significand))
  else .integer (-(significand : Int))

def afterInteger (positive : Bool) (significand : Nat) (power : Int) (isLong : Bool) (cs : List Char) :
    Except Failure (Found × List Char) :=
  match cs with
  | '.' :: rest => fraction positive significand power rest
  | cs =>
    if isFractional cs ∨ isLong then ending positive significand power cs
    else .ok (integer positive significand, cs)

def unsigned (positive : Bool) (cs : List Char) : Except Failure (Found × List Char) :=
  match cs with
  | [] => .error (.here .endInValue [])
  | '0' :: rest =>
    match rest with
    | c :: _ => if c.isDigit then .error (.next .number rest) else afterInteger positive 0 0 false rest
    | [] => afterInteger positive 0 0 false []
  | c :: rest =>
    if ¬ c.isDigit then .error (.ahead .number (c :: rest) 1)
    else
      let (significand, _, rest) := gather significandLimit 0 0 cs
      let excess := rest.takeWhile Char.isDigit
      afterInteger positive significand excess.length (!excess.isEmpty) (rest.drop excess.length)

def read : Reader Found
  | '-' :: rest => unsigned false rest
  | cs => unsigned true cs

end Outbox.Json.Number
