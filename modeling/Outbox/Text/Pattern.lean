import Outbox.Text.CharSet

namespace Outbox.Text

/-- A condition on the place between two characters. A line ends with a line feed, or else with a carriage
return, a line feed or both; words are of ASCII. -/
inductive Place
  | textStart
  | textEnd
  | lineStart
  | lineEnd
  | anyLineStart
  | anyLineEnd
  | wordEdge
  | notWordEdge
  | wordStart
  | wordEnd
deriving DecidableEq

def Place.holds (p : Place) (before after : Option Char) : Bool :=
  let isWord (c : Option Char) := c.any CharSet.word.contains
  match p with
  | textStart => before.isNone
  | textEnd => after.isNone
  | lineStart => before.all (· == '\n')
  | lineEnd => after.all (· == '\n')
  | anyLineStart => before.all fun c => c == '\n' || c == '\r' && after != some '\n'
  | anyLineEnd => after.all fun c => c == '\r' || c == '\n' && before != some '\r'
  | wordEdge => isWord before != isWord after
  | notWordEdge => isWord before == isWord after
  | wordStart => !isWord before && isWord after
  | wordEnd => isWord before && !isWord after

/-- A pattern for texts. Of two ways to match, the first choice and, where greedy, one more round are
preferred. -/
inductive Pattern
  | empty
  | one (s : CharSet)
  | place (p : Place)
  | seq (p q : Pattern)
  | either (p q : Pattern)
  | optional (greedy : Bool) (p : Pattern)
  | repeated (greedy : Bool) (p : Pattern)
deriving DecidableEq

namespace Pattern

/-- A step of a matcher, at an index of its program: it takes a character or passes a place and goes
on to the next step, or it goes on elsewhere, with a first and a second choice where there are two. -/
inductive Step
  | take (s : CharSet)
  | pass (p : Place)
  | jump (target : Nat)
  | fork (first second : Nat)

def fork (greedy : Bool) (further out : Nat) : Step := if greedy then .fork further out else .fork out further

def steps : Pattern → Nat → List Step
  | empty, _ => []
  | one s, _ => [.take s]
  | place p, _ => [.pass p]
  | seq p q, start =>
    let first := p.steps start
    first ++ q.steps (start + first.length)
  | either p q, start =>
    let first := p.steps (start + 1)
    let second := q.steps (start + first.length + 2)
    .fork (start + 1) (start + first.length + 2) :: first ++
      .jump (start + first.length + second.length + 2) :: second
  | optional greedy p, start =>
    let inner := p.steps (start + 1)
    fork greedy (start + 1) (start + inner.length + 1) :: inner
  | repeated greedy p, start =>
    let inner := p.steps start
    inner ++ [fork greedy start (start + inner.length + 1)]

section Run

variable (program : Array Step)

/-- The steps that wait for a character, or the end of the program, as they are met from those on the
stack: added to `met` in reverse, and each only once. -/
def settle (before after : Option Char) : Nat → List Nat → List Nat → List Nat
  | 0, met, _ => met
  | _ + 1, met, [] => met
  | fuel + 1, met, i :: stack =>
    if met.contains i then settle before after fuel met stack
    else
      let met' := i :: met
      match program[i]? with
      | some (.jump target) => settle before after fuel met' (target :: stack)
      | some (.fork first second) => settle before after fuel met' (first :: second :: stack)
      | some (.pass p) =>
        settle before after fuel met' (if p.holds before after then (i + 1) :: stack else stack)
      | some (.take _) | none => settle before after fuel met' stack

def settleFrom (before after : Option Char) (met : List Nat) (i : Nat) : List Nat :=
  settle program before after (2 * program.size + 2) met [i]

def advance (c : Char) (after : Option Char) : List Nat → List Nat → List Nat
  | met, [] => met
  | met, i :: threads =>
    match program[i]? with
    | none => met
    | some (.take s) =>
      advance c after (if s.contains c then settleFrom program (some c) after met (i + 1) else met) threads
    | some _ => advance c after met threads

def matchesInside (c : Char) : Bool :=
  1 < c.utf8Size && (settleFrom program (some c) (some c) [] 0).contains program.size

/-- Whether the first match ends where the text does. Until there is one, it may begin at any place:
`isSought` says that there was none before the threads. -/
def runs : Bool → List Nat → List Char → Bool
  | _, threads, [] => threads.contains program.size
  | isSought, threads, c :: cs =>
    let isSought := isSought && !threads.contains program.size && !matchesInside program c
    let met := advance program c cs.head? [] threads
    runs isSought (if isSought then settleFrom program (some c) cs.head? met 0 else met).reverse cs

end Run

def fits (p : Pattern) (s : String) : Bool :=
  let program := (p.steps 0).toArray
  let cs := s.toList
  runs program true (settleFrom program none cs.head? [] 0).reverse cs

end Pattern

end Outbox.Text
