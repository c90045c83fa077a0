namespace Outbox.Text

/-- The Unicode property White_Space. -/
def isBlank (c : Char) : Bool :=
  let n := c.toNat
  (9 ≤ n && n ≤ 13) || n == 0x20 || n == 0x85 || n == 0xA0 || n == 0x1680 || (0x2000 ≤ n && n ≤ 0x200A) ||
    n == 0x2028 || n == 0x2029 || n == 0x202F || n == 0x205F || n == 0x3000

def trimStart (cs : List Char) : List Char := cs.dropWhile isBlank

def trimmed (cs : List Char) : List Char := (trimStart (trimStart cs).reverse).reverse

def trim (s : String) : String := String.ofList (trimmed s.toList)

def squeeze : List Char → List Char
  | [] => []
  | c :: cs =>
    if isBlank c then
      match squeeze cs with
      | [] => []
      | d :: ds => if d = ' ' then d :: ds else ' ' :: d :: ds
    else c :: squeeze cs

def spaced (s : String) : String := String.ofList (trimStart (squeeze s.toList))

def asciiLower (s : String) : String := s.map Char.toLower

end Outbox.Text
