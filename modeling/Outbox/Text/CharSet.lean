namespace Outbox.Text

def otherCase (c : Char) : Char := if c.isUpper then c.toLower else c.toUpper

inductive CharSet
  | nothing
  | range (first last : Char)
  | complement (s : CharSet)
  | union (s t : CharSet)
  | intersection (s t : CharSet)
  | difference (s t : CharSet)
  | symmetricDifference (s t : CharSet)
  | anyCase (s : CharSet)
deriving DecidableEq

namespace CharSet

def contains : CharSet → Char → Bool
  | nothing, _ => false
  | range first last, c => first ≤ c && c ≤ last
  | complement s, c => !s.contains c
  | union s t, c => s.contains c || t.contains c
  | intersection s t, c => s.contains c && t.contains c
  | difference s t, c => s.contains c && !t.contains c
  | symmetricDifference s t, c => s.contains c != t.contains c
  | anyCase s, c => s.contains c || s.contains (otherCase c)

def single (c : Char) : CharSet := range c c

def ofRanges (rs : List (Char × Char)) : CharSet := rs.foldr (fun (first, last) s => union (range first last) s) nothing

def allBut (cs : List Char) : CharSet := complement (ofRanges (cs.map fun c => (c, c)))

def digit : CharSet := range '0' '9'

def space : CharSet := ofRanges [('\t', '\r'), (' ', ' ')]

def word : CharSet := ofRanges [('0', '9'), ('A', 'Z'), ('_', '_'), ('a', 'z')]

def ofName? (name : String) : Option CharSet :=
  [("alnum", ofRanges [('0', '9'), ('A', 'Z'), ('a', 'z')]), ("alpha", ofRanges [('A', 'Z'), ('a', 'z')]),
    ("ascii", range '\x00' '\x7f'), ("blank", ofRanges [('\t', '\t'), (' ', ' ')]),
    ("cntrl", ofRanges [('\x00', '\x1f'), ('\x7f', '\x7f')]), ("digit", digit), ("graph", range '!' '~'),
    ("lower", range 'a' 'z'), ("print", range ' ' '~'),
    ("punct", ofRanges [('!', '/'), (':', '@'), ('[', '\x60'), ('\x7b', '~')]), ("space", space),
    ("upper", range 'A' 'Z'), ("word", word),
    ("xdigit", ofRanges [('0', '9'), ('A', 'F'), ('a', 'f')])].lookup name

end CharSet

end Outbox.Text
