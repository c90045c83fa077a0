import Outbox.Uuid
import Outbox.Text.Bytes
import Outbox.Text.Decimal

namespace Outbox.Uuid

open Text

inductive Misread
  | character (c : Char) (index : Nat)
  | length (bytes : Nat)
  | groupCount (count : Nat)
  | groupLength (group expected found : Nat)
deriving DecidableEq

def Misread.message : Misread → String
  | .character c i => "invalid character: found `" ++ c.toString ++ "` at " ++ natText i
  | .length n => "invalid length: found " ++ natText n
  | .groupCount n => "invalid group count: expected 5, found " ++ natText n
  | .groupLength g e n =>
    "invalid group length in group " ++ natText g ++ ": expected " ++ natText e ++ ", found " ++ natText n

def ofSimple? (ds : List Char) : Option Uuid := if ds.length = 32 then (hexNumber? ds).bind of? else none

def ofHyphenated? (cs : List Char) : Option Uuid :=
  let ds := cs.filter (· ≠ '-')
  if hyphenated ds = cs then ofSimple? ds else none

def unbraced? (cs : List Char) : Option (List Char) :=
  if 2 ≤ cs.length ∧ cs.head? = some '\x7b' ∧ cs.getLast? = some '\x7d' then some (cs.drop 1).dropLast else none

def unmarked? (cs : List Char) : Option (List Char) :=
  if (cs.take 9).map Char.toLower = "urn:uuid:".toList then some (cs.drop 9) else none

def groups? (cs : List Char) : Option (List Char) :=
  match utf8Length cs with
  | 36 => some cs
  | 38 => unbraced? cs
  | 45 => unmarked? cs
  | _ => none

def ofChars? (cs : List Char) : Option Uuid := ofSimple? cs <|> (groups? cs).bind ofHyphenated?

def stray? : List Char → Nat → Option (Char × Nat)
  | [], _ => none
  | c :: cs, i => if c = '-' ∨ (hexValue? c).isSome then stray? cs (i + c.utf8Size) else some (c, i)

def hyphens : List Char → Nat → List Nat
  | [], _ => []
  | c :: cs, i => if c = '-' then i :: hyphens cs (i + 1) else hyphens cs (i + 1)

/-- The first of four groups that does not end where it should, if any, else the last one. -/
def wrongGroup (total : Nat) (ends : List Nat) : Misread :=
  let starts := [0, 9, 14, 19]
  let widths := [8, 4, 4, 4]
  match ((List.range 4).zip (starts.zip widths)).zip ends |>.find? (fun ((_, s, w), e) => e ≠ s + w) with
  | some ((g, s, w), e) => .groupLength g w (e - s)
  | none => .groupLength 4 12 (total - 24)

/-- What is wrong with the characters that should be an identifier, or else with their groups. `before`
bytes come ahead of them in a text of `total` bytes, and `bare` ones need no groups. -/
def fault (cs : List Char) (before total : Nat) (bare : Bool) : Misread :=
  match stray? cs before with
  | some (c, i) => .character c i
  | none =>
    let ends := hyphens cs 0
    if ends.isEmpty ∧ bare then .length total
    else if ends.length ≠ 4 then .groupCount (ends.length + 1)
    else wrongGroup total ends

/-- Why a text is no identifier. Where groups were looked for, they count as a text of their own, and a
text longer than a URN is not looked into. -/
def diagnose (cs : List Char) : Misread :=
  let total := utf8Length cs
  match groups? cs with
  | some groups => fault groups 0 (utf8Length groups) false
  | none =>
    if 45 < total then .length total
    else match unbraced? cs, unmarked? cs with
      | some inner, _ => fault inner 1 total false
      | none, some inner => fault inner 9 total false
      | none, none => fault cs 0 total true

def read (s : String) : Except Misread Uuid :=
  match ofChars? s.toList with
  | some u => .ok u
  | none => .error (diagnose s.toList)

end Outbox.Uuid
