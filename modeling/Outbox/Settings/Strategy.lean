import Outbox.Json.Typed
import Outbox.Settings

namespace Outbox.ClaimStrategy

open Json

def nothing : Reader Unit := fun cs =>
  match skipSpace cs with
  | 'n' :: rest => (word ['u', 'l', 'l'] rest).map ((), ·)
  | cs => .error (unexpected "unit" cs)

def nameReader : Reader ClaimStrategy := variant [(perRow.name, .perRow), (setBased.name, .setBased)]

def key : Reader ClaimStrategy := fun cs =>
  match skipSpace cs with
  | '"' :: rest => nameReader ('"' :: rest)
  | '\x7d' :: rest => .error (.next .valueWanted ('\x7d' :: rest))
  | [] => .error (.next .endInObject [])
  | cs => .error (.next .keyWanted cs)

def reader : Reader ClaimStrategy := fun cs =>
  match skipSpace cs with
  | '"' :: rest => nameReader ('"' :: rest)
  | '\x7b' :: rest => do
    let (strategy, rest) ← key rest
    let ((), rest) ← nothing (← colon rest)
    match skipSpace rest with
    | '\x7d' :: rest => return (strategy, rest)
    | [] => throw (.here .endInObject [])
    | rest => throw (.here .valueWanted rest)
  | [] => .error (.next .endInValue [])
  | cs => .error (.next .valueWanted cs)

def parse (s : String) : Except Json.Error ClaimStrategy := readAll reader s

def toJson (s : ClaimStrategy) : Json := .text s.name

end Outbox.ClaimStrategy
