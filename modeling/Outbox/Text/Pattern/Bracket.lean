import Outbox.Text.Pattern.Escape

namespace Outbox.Text.Pattern

structure Nested (α : Type) where
  value : α
  depth : Nat

inductive Joint
  | intersection
  | difference
  | symmetricDifference

def Joint.apply (j : Joint) (s t : CharSet) : CharSet :=
  match j with
  | intersection => .intersection s t
  | difference => .difference s t
  | symmetricDifference => .symmetricDifference s t

namespace Bracket

/-- A class between brackets as far as it is read: what stands before the last joint, and the items after
that one. -/
structure Draft where
  joined : Option (Joint × Nested CharSet)
  items : List (Nested CharSet)

def Draft.add (d : Draft) (item : Nested CharSet) : Draft := { d with items := item :: d.items }

def united (items : List (Nested CharSet)) : Nested CharSet :=
  ⟨items.foldl (fun s item => .union item.value s) .nothing,
    items.foldl (fun d item => max d item.depth) 0 + if items.length ≤ 1 then 0 else 1⟩

def named? : List Char → Option (Bool × CharSet × List Char)
  | ':' :: cs =>
    let (negated, cs) := match cs with
      | '^' :: cs => (true, cs)
      | cs => (false, cs)
    match cs.dropWhile (· ≠ ':') with
    | ':' :: ']' :: rest => do
      return (negated, ← CharSet.ofName? (String.ofList (cs.takeWhile (· ≠ ':'))), rest)
    | _ => none
  | _ => none

variable (m : Mode)

def folded (s : CharSet) : CharSet := if m.isCaseless then .anyCase s else s

def turned? (negated : Bool) (s : CharSet) : Option CharSet :=
  if !negated then some s else if m.isOfBytes then none else some (.complement s)

def Draft.close (d : Draft) : Nested CharSet :=
  let last := united d.items
  match d.joined with
  | none => last
  | some (joint, first) =>
    ⟨joint.apply (folded m first.value) (folded m last.value), max first.depth last.depth + 1⟩

def Draft.join (d : Draft) (joint : Joint) : Draft := ⟨some (joint, d.close m), []⟩

def part? : List Char → Option (Escaped × List Char)
  | [] => none
  | '\\' :: cs => escape m cs
  | c :: cs => some (.letter c, cs)

def isKnown (c : Char) : Bool := !m.isOfBytes || c.toNat < 0x80

def alone? : Escaped → Option CharSet
  | .letter c => if isKnown m c then some (.single c) else none
  | .set s => some s
  | .place _ => none

/-- What seems to follow. In a comment that is its first character which is no blank. -/
def glimpse (cs : List Char) : Option Char :=
  if !m.isSpaced then cs.head?
  else
    let seen := match cs.dropWhile isBlank with
      | '#' :: comment => comment.dropWhile isBlank
      | rest => rest
    seen.head?.or cs.head?

/-- One item, or a range of characters. A hyphen before a hyphen or before the end makes no range. -/
def item? (cs : List Char) : Option (CharSet × List Char) := do
  let (first, cs) ← part? m cs
  let alone (cs : List Char) : Option (CharSet × List Char) := do return (← alone? m first, cs)
  match m.skip cs with
  | '-' :: cs =>
    if glimpse m cs = some ']' ∨ glimpse m cs = some '-' then alone ('-' :: cs)
    else
      let (last, cs) ← part? m (m.skip cs)
      match first, last with
      | .letter a, .letter b => if a ≤ b && isKnown m a && isKnown m b then some (.range a b, cs) else none
      | _, _ => none
  | cs => alone cs

def hyphens : Nat → List Char → Nat × List Char
  | fuel + 1, '-' :: cs =>
    let (count, rest) := hyphens fuel (m.skip cs)
    (count + 1, rest)
  | _, cs => (0, cs)

/-- What may stand first: a caret that negates, then hyphens that are taken as they are, or else a
bracket that is. -/
def opened (cs : List Char) : Bool × Draft × List Char :=
  let (negated, cs) := match m.skip cs with
    | '^' :: cs => (true, m.skip cs)
    | cs => (false, cs)
  match hyphens m cs.length cs with
  | (0, ']' :: cs) => (negated, ⟨none, [⟨.single ']', 0⟩]⟩, cs)
  | (count, cs) => (negated, ⟨none, List.replicate count ⟨.single '-', 0⟩⟩, cs)

def read : Nat → Bool → Draft → List Char → Option (Nested CharSet × List Char)
  | 0, _, _, _ => none
  | fuel + 1, negated, d, cs =>
    match m.skip cs with
    | [] => none
    | ']' :: cs => do
      let inner := d.close m
      return (⟨← turned? m negated (folded m inner.value), inner.depth + 1⟩, cs)
    | '&' :: '&' :: cs => read fuel negated (d.join m .intersection) cs
    | '-' :: '-' :: cs => read fuel negated (d.join m .difference) cs
    | '~' :: '~' :: cs => read fuel negated (d.join m .symmetricDifference) cs
    | '[' :: cs =>
      match named? cs with
      | some (turn, s, cs) => do read fuel negated (d.add ⟨← turned? m turn s, 0⟩) cs
      | none => do
        let (turn, inner, cs) := opened m cs
        let (nested, cs) ← read fuel turn inner cs
        read fuel negated (d.add nested) cs
    | cs => do
      let (s, cs) ← item? m cs
      read fuel negated (d.add ⟨s, 0⟩) cs

end Bracket

def bracketed (m : Mode) (cs : List Char) : Option (Nested CharSet × List Char) :=
  if m.isCaseless && !m.isOfBytes then none
  else
    let (negated, d, rest) := Bracket.opened m cs
    Bracket.read m (cs.length + 1) negated d rest

end Outbox.Text.Pattern
