import Outbox.Json.Reader

namespace Outbox.Json

def simpleEscape? (c : Char) : Option Char :=
  if c = '"' ∨ c = '\\' ∨ c = '/' then some c
  else if c = 'b' then some '\x08'
  else if c = 'f' then some '\x0c'
  else if c = 'n' then some '\n'
  else if c = 'r' then some '\r'
  else if c = 't' then some '\t'
  else none

def isHighSurrogate (n : Nat) : Bool := 0xD800 ≤ n && n ≤ 0xDBFF

def isLowSurrogate (n : Nat) : Bool := 0xDC00 ≤ n && n ≤ 0xDFFF

def pairEscape (high : Nat) : List Char → Except Failure (Char × List Char)
  | [] => .error (.here .endInString [])
  | ['\\'] => .error (.here .endInString [])
  | '\\' :: 'u' :: rest => do
    let (low, rest) ← hexEscape rest
    if isLowSurrogate low then return (Char.ofNat (0x10000 + (high - 0xD800) * 0x400 + (low - 0xDC00)), rest)
    else throw (.here .loneSurrogate rest)
  | '\\' :: rest => .error (.ahead .hexEnd rest 1)
  | rest => .error (.ahead .hexEnd rest 1)

def escaped : List Char → Except Failure (Char × List Char)
  | [] => .error (.here .endInString [])
  | 'u' :: rest => do
    let (n, rest) ← hexEscape rest
    if isLowSurrogate n then throw (.here .loneSurrogate rest)
    else if isHighSurrogate n then pairEscape n rest
    else return (Char.ofNat n, rest)
  | c :: rest =>
    match simpleEscape? c with
    | some d => .ok (d, rest)
    | none => .error (.ahead .escape (c :: rest) 1)

/-- The characters up to the closing quote, put before `done` in reverse. There are no more of them than
there are in the first list. -/
def chars : List Char → List Char → List Char → Except Failure (List Char × List Char)
  | _, _, [] => .error (.here .endInString [])
  | [], _, cs => .error (.here .endInString cs)
  | _ :: _, done, '"' :: rest => .ok (done.reverse, rest)
  | _ :: fuel, done, '\\' :: rest =>
    match escaped rest with
    | .ok (c, rest) => chars fuel (c :: done) rest
    | .error f => .error f
  | _ :: fuel, done, c :: rest =>
    if c.toNat < 0x20 then .error (.ahead .controlCharacter (c :: rest) 1) else chars fuel (c :: done) rest

def stringBody : Reader String := fun cs =>
  (chars cs [] cs).map fun (s, rest) => (String.ofList s, rest)

end Outbox.Json
