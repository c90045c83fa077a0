import Outbox.Json.Reader

namespace Outbox.Json

inductive Frame
  | list
  | object
deriving DecidableEq

namespace Raw

/-- The rest after a string, its opening quote already passed. Escapes need not say characters. -/
def string : List Char → Except Failure (List Char)
  | [] => .error (.here .endInString [])
  | '"' :: rest => .ok rest
  | ['\\'] => .error (.here .endInString [])
  | '\\' :: 'u' :: a :: b :: c :: d :: rest =>
    if (Text.hexNumber? [a, b, c, d]).isSome then string rest
    else .error (.ahead .escape (a :: b :: c :: d :: rest) 4)
  | '\\' :: 'u' :: rest => .error (if Text.utf8Length rest < 4 then .here .endInString [] else .ahead .escape rest 4)
  | '\\' :: c :: rest =>
    if c ∈ ['"', '\\', '/', 'b', 'f', 'n', 'r', 't'] then string rest else .error (.ahead .escape (c :: rest) 1)
  | c :: rest => if c.toNat < 0x20 then .error (.here .controlCharacter (c :: rest)) else string rest

def digits (cs : List Char) : List Char := cs.dropWhile Char.isDigit

def someDigits (cs : List Char) (failure : Failure) : Except Failure (List Char) :=
  match cs with
  | c :: rest => if c.isDigit then .ok (digits rest) else .error failure
  | [] => .error failure

def exponent : List Char → Except Failure (List Char)
  | c :: rest =>
    if c = 'e' ∨ c = 'E' then
      let rest := match rest with
        | '+' :: rest | '-' :: rest => rest
        | rest => rest
      someDigits rest (.next .number rest)
    else .ok (c :: rest)
  | [] => .ok []

def fraction : List Char → Except Failure (List Char)
  | '.' :: rest => do exponent (← someDigits rest (.next .number rest))
  | cs => exponent cs

def unsigned : List Char → Except Failure (List Char)
  | '0' :: c :: rest =>
    if c.isDigit then .error (.next .number (c :: rest)) else fraction (c :: rest)
  | '0' :: [] => .ok []
  | c :: rest => if c.isDigit then fraction (digits rest) else .error (.ahead .number (c :: rest) 1)
  | [] => .error (.here .number [])

/-- The rest after a value without parts, or after the bracket that opens one with parts. -/
def token (cs : List Char) : Except Failure (Option Frame × List Char) :=
  match cs with
  | [] => .error (.next .endInValue [])
  | 'n' :: rest => (word ['u', 'l', 'l'] rest).map (none, ·)
  | 't' :: rest => (word ['r', 'u', 'e'] rest).map (none, ·)
  | 'f' :: rest => (word ['a', 'l', 's', 'e'] rest).map (none, ·)
  | '-' :: rest => (unsigned rest).map (none, ·)
  | '"' :: rest => (string rest).map (none, ·)
  | '[' :: rest => .ok (some .list, rest)
  | '\x7b' :: rest => .ok (some .object, rest)
  | c :: rest =>
    if c.isDigit then (unsigned (c :: rest)).map (none, ·) else .error (.next .valueWanted (c :: rest))

def name (cs : List Char) : Except Failure (List Char) :=
  match skipSpace cs with
  | '"' :: rest => do
    match skipSpace (← string rest) with
    | ':' :: rest => return rest
    | [] => throw (.next .endInObject [])
    | rest => throw (.next .colonWanted rest)
  | [] => .error (.next .endInObject [])
  | rest => .error (.next .keyWanted rest)

inductive Stage
  | value
  | opened
  | closed
deriving DecidableEq

def Frame.closer : Frame → Char
  | .list => ']'
  | .object => '\x7d'

def Frame.unfinished : Frame → Problem
  | .list => .endInList
  | .object => .endInObject

def Frame.separatorWanted : Frame → Problem
  | .list => .listEndWanted
  | .object => .objectEndWanted

def part (frame : Frame) (cs : List Char) : Except Failure (List Char) :=
  match frame with
  | .list => .ok cs
  | .object => name cs

/-- The rest after a value of any depth. The frames are the brackets still open, the inmost first. -/
def scan : Nat → List Frame → Stage → List Char → Except Failure (List Char)
  | 0, _, _, cs => .error (.here .depth cs)
  | fuel + 1, frames, .value, cs =>
    match token (skipSpace cs) with
    | .error f => .error f
    | .ok (some frame, rest) => scan fuel (frame :: frames) .opened rest
    | .ok (none, rest) => if frames.isEmpty then .ok rest else scan fuel frames .closed rest
  | _ + 1, [], _, cs => .ok cs
  | fuel + 1, frame :: frames, stage, cs =>
    match skipSpace cs with
    | [] => .error (.next (Frame.unfinished frame) [])
    | c :: rest =>
      if c = Frame.closer frame then
        if frames.isEmpty then .ok rest else scan fuel frames .closed rest
      else if stage = .opened then
        match part frame (c :: rest) with
        | .error f => .error f
        | .ok rest => scan fuel (frame :: frames) .value rest
      else if c = ',' then
        match part frame rest with
        | .error f => .error f
        | .ok rest => scan fuel (frame :: frames) .value rest
      else .error (.next (Frame.separatorWanted frame) (c :: rest))

/-- The rest after a value in a text of at most `size` characters, each of which takes at most two steps. -/
def value (size : Nat) (cs : List Char) : Except Failure (List Char) := scan (2 * size + 2) [] .value cs

end Raw

def rawText : Reader String := fun cs => do
  let cs := skipSpace cs
  let rest ← Raw.value cs.length cs
  return (String.ofList (cs.take (cs.length - rest.length)), rest)

def trimmed (s : String) : Except Error String := readAll rawText s

end Outbox.Json
