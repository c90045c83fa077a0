import Outbox.Json.Problem

namespace Outbox.Json

/-- A failed reading. `rest` is where the reader stands; `place` is where the problem is shown, some
bytes into a remainder of the text, once that is decided. -/
structure Failure where
  problem : Problem
  rest : List Char
  place : Option (List Char × Nat)

abbrev Reader (α : Type) := List Char → Except Failure (α × List Char)

namespace Failure

def ahead (problem : Problem) (rest : List Char) (bytes : Nat) : Failure :=
  ⟨problem, rest, some (rest, bytes)⟩

def here (problem : Problem) (rest : List Char) : Failure := .ahead problem rest 0

def next (problem : Problem) (rest : List Char) : Failure := .ahead problem rest (if rest.isEmpty then 0 else 1)

/-- Shown at the end of the value being read around it. -/
def within (m : Mismatch) (rest : List Char) : Failure := ⟨.mismatch m, rest, none⟩

def settle (f : Failure) (rest : List Char) : Failure :=
  match f.place with
  | some _ => f
  | none => .here f.problem rest

def toError (f : Failure) (text : List Char) : Error :=
  ⟨f.problem, f.place.map fun (rest, ahead) =>
    Position.after text (Text.utf8Length text - Text.utf8Length rest + ahead) ⟨1, 0⟩⟩

end Failure

def isSpace (c : Char) : Bool := c == ' ' || c == '\n' || c == '\t' || c == '\r'

def skipSpace (cs : List Char) : List Char := cs.dropWhile isSpace

def word : List Char → List Char → Except Failure (List Char)
  | [], cs => .ok cs
  | _ :: _, [] => .error (.here .endInValue [])
  | w :: ws, c :: cs => if w = c then word ws cs else .error (.ahead .wordWanted (c :: cs) 1)

def hexEscape : List Char → Except Failure (Nat × List Char)
  | a :: b :: c :: d :: rest =>
    match Text.hexNumber? [a, b, c, d] with
    | some n => .ok (n, rest)
    | none => .error (.ahead .escape (a :: b :: c :: d :: rest) 4)
  | cs => .error (if Text.utf8Length cs < 4 then .here .endInString [] else .ahead .escape cs 4)

def readAll {α : Type} (read : Reader α) (s : String) : Except Error α :=
  let text := s.toList
  match read text with
  | .error f => .error (f.toError text)
  | .ok (a, rest) =>
    match skipSpace rest with
    | [] => .ok a
    | rest => .error ((Failure.next .trailingCharacters rest).toError text)

end Outbox.Json
