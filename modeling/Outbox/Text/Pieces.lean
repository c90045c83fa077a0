import Outbox.Text.Blank

namespace Outbox.Text

def pieces (separator : Char) : List Char → List (List Char)
  | [] => [[]]
  | c :: cs =>
    match c == separator, pieces separator cs with
    | true, ps => [] :: ps
    | false, p :: ps => (c :: p) :: ps
    | false, [] => [[c]]

def lines (s : String) : List String := (pieces '\n' s.toList).map fun cs => String.ofList (trimmed cs)

end Outbox.Text
