import Outbox.Text.Decimal
import Outbox.Uuid

namespace Outbox

/-- What is written as JSON. The text of `raw` is JSON already. -/
inductive Json
  | null
  | flag (b : Bool)
  | number (n : Nat)
  | text (s : String)
  | object (members : List (String × Json))
  | raw (s : String)

namespace Json

def ofOption {α : Type} (f : α → Json) : Option α → Json
  | none => .null
  | some a => f a

def escape (c : Char) : List Char :=
  if c = '"' then ['\\', '"']
  else if c = '\\' then ['\\', '\\']
  else if c = '\x08' then ['\\', 'b']
  else if c = '\x0c' then ['\\', 'f']
  else if c = '\n' then ['\\', 'n']
  else if c = '\r' then ['\\', 'r']
  else if c = '\t' then ['\\', 't']
  else if c.toNat < 0x20 then '\\' :: 'u' :: Text.hexDigits 4 c.toNat
  else [c]

def quote (s : String) : String := String.ofList ('"' :: s.toList.flatMap escape ++ ['"'])

mutual

def render : Json → String
  | .null => "null"
  | .flag b => if b then "true" else "false"
  | .number n => Text.natText n
  | .text s => quote s
  | .object members => "\x7b" ++ renderMembers members ++ "\x7d"
  | .raw s => s

def renderMembers : List (String × Json) → String
  | [] => ""
  | [(name, value)] => quote name ++ ":" ++ value.render
  | (name, value) :: rest => quote name ++ ":" ++ value.render ++ "," ++ renderMembers rest

end

end Json

end Outbox
