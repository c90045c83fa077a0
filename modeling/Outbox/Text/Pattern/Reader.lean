import Outbox.Text.Alphanumeric
import Outbox.Text.Pattern.Bracket

namespace Outbox.Text.Pattern

/-- A pattern as far as it is read: the choices before the last bar, and the items after it, the last one
first. A change of mode is an item without a pattern. -/
structure Draft where
  choices : List (Nested Pattern)
  items : List (Option (Nested Pattern))

namespace Draft

def empty : Draft := ⟨[], []⟩

def add (d : Draft) (p : Nested Pattern) : Draft := { d with items := some p :: d.items }

def sequence (items : List (Option (Nested Pattern))) : Nested Pattern :=
  ⟨items.foldl (fun p item => item.elim p fun q => match p with
      | .empty => q.value
      | p => .seq q.value p) .empty,
    items.foldl (fun d item => max d (item.elim 0 (·.depth))) 0 + if items.length ≤ 1 then 0 else 1⟩

def choose (d : Draft) : Draft := ⟨sequence d.items :: d.choices, []⟩

def close (d : Draft) : Nested Pattern :=
  let last := sequence d.items
  d.choices.foldl (fun p q => ⟨.either q.value p.value, max p.depth (q.depth + 1)⟩)
    ⟨last.value, last.depth + if d.choices.isEmpty then 0 else 1⟩

def repeat? (d : Draft) (f : Pattern → Pattern) : Option Draft :=
  match d.items with
  | some p :: items => some { d with items := some ⟨f p.value, p.depth + 1⟩ :: items }
  | _ => none

end Draft

inductive Opening
  | mode (m : Mode)
  | group (m : Mode) (name : Option String)

def groupName? (cs : List Char) : Option (String × List Char) :=
  match cs.takeWhile (· ≠ '>'), cs.dropWhile (· ≠ '>') with
  | c :: name, _ :: rest =>
    if (c = '_' || isAlphabetic c) &&
        name.all fun c => isAlphanumeric c || c ∈ ['_', '.', '[', ']'] then
      some (String.ofList (c :: name), rest)
    else none
  | _, _ => none

def opening? (m : Mode) (cs : List Char) : Option (Opening × List Char) :=
  let named (cs : List Char) : Option (Opening × List Char) := do
    let (name, cs) ← groupName? cs
    return (.group m (some name), cs)
  match m.skip cs with
  | '?' :: 'P' :: '<' :: cs => named cs
  | '?' :: '<' :: cs => named cs
  | '?' :: cs => do
    let letters := cs.takeWhile fun c => c ≠ ':' && c ≠ ')'
    let changed ← m.switched? letters
    match cs.drop letters.length with
    | ':' :: cs => return (.group changed none, cs)
    | ')' :: cs => if letters.isEmpty then none else return (.mode changed, cs)
    | _ => none
  | cs => some (.group m none, cs)

def literal? (m : Mode) (c : Char) : Option Pattern :=
  if !m.isCaseless then some (.one (.single c))
  else if m.isOfBytes then some (.one (if c.toNat < 0x80 then .anyCase (.single c) else .single c))
  else none

def atom? (m : Mode) : List Char → Option (Nested Pattern × List Char)
  | [] => none
  | '[' :: cs => do
    let (s, cs) ← bracketed m cs
    return (⟨.one s.value, s.depth⟩, cs)
  | '\\' :: cs => do
    match ← escape m cs with
    | (.letter c, cs) => return (⟨← literal? m c, 0⟩, cs)
    | (.place p, cs) => return (⟨.place p, 0⟩, cs)
    | (.set s, cs) => return (⟨.one s, 0⟩, cs)
  | '.' :: cs =>
    let ends := if m.dotIsAll then [] else if m.hasCarriageReturns then ['\r', '\n'] else ['\n']
    if m.isOfBytes then none else some (⟨.one (.allBut ends), 0⟩, cs)
  | '^' :: cs =>
    let p := if !m.isMultiline then Place.textStart else if m.hasCarriageReturns then .anyLineStart else .lineStart
    some (⟨.place p, 0⟩, cs)
  | '$' :: cs =>
    let p := if !m.isMultiline then Place.textEnd else if m.hasCarriageReturns then .anyLineEnd else .lineEnd
    some (⟨.place p, 0⟩, cs)
  | c :: cs => do return (⟨← literal? m c, 0⟩, cs)

def greed (m : Mode) : List Char → Bool × List Char
  | '?' :: cs => (m.isLazy, cs)
  | cs => (!m.isLazy, cs)

/-- A pattern up to a closing parenthesis or to the end, of less than `fuel` characters. The names of its
groups are added to `names`, and no name comes twice. Counted repetitions are not known. -/
def read : Nat → List String → Mode → Draft → List Char → Option (Nested Pattern × List String × List Char)
  | 0, _, _, _, _ => none
  | fuel + 1, names, m, d, cs =>
    match m.skip cs with
    | [] => some (d.close, names, [])
    | ')' :: cs => some (d.close, names, ')' :: cs)
    | '|' :: cs => read fuel names m d.choose cs
    | '\x7b' :: _ => none
    | '?' :: cs => do
      let (greedy, cs) := greed m cs
      read fuel names m (← d.repeat? (.optional greedy)) cs
    | '*' :: cs => do
      let (greedy, cs) := greed m cs
      read fuel names m (← d.repeat? fun p => .optional greedy (.repeated greedy p)) cs
    | '+' :: cs => do
      let (greedy, cs) := greed m cs
      read fuel names m (← d.repeat? (.repeated greedy)) cs
    | '(' :: cs => do
      match ← opening? m cs with
      | (.mode changed, cs) => read fuel names changed { d with items := none :: d.items } cs
      | (.group inner name, cs) =>
        if name.any names.contains then none
        else
          match ← read fuel (name.toList ++ names) inner .empty cs with
          | (p, names, ')' :: cs) => read fuel names m (d.add ⟨p.value, p.depth + 1⟩) cs
          | _ => none
    | cs => do
      let (p, cs) ← atom? m cs
      read fuel names m (d.add p) cs

def depthLimit : Nat := 250

def ofText? (s : String) : Option Pattern :=
  match read (s.length + 1) [] .standard .empty s.toList with
  | some (p, _, []) => if p.depth ≤ depthLimit then some p.value else none
  | _ => none

end Outbox.Text.Pattern
