import Outbox.Text.Quoted
import Outbox.Time.Reader
import Outbox.Uuid.Reader

namespace Outbox.Json

open Text

inductive Found
  | null
  | flag (b : Bool)
  | integer (n : Int)
  | float (digits : String)
  | text (s : String)
  | sequence
  | map
deriving DecidableEq

def Found.message : Found → String
  | .null => "null"
  | .flag b => "boolean `" ++ (if b then "true" else "false") ++ "`"
  | .integer n => "integer `" ++ toString n ++ "`"
  | .float digits => "floating point `" ++ digits ++ "`"
  | .text s => "string " ++ quoted s
  | .sequence => "sequence"
  | .map => "map"

inductive Mismatch
  | invalidType (found : Found) (expected : String)
  | invalidValue (found : Found) (expected : String)
  | invalidLength (length : Nat) (expected : String)
  | missingField (name : String)
  | duplicateField (name : String)
  | unknownField (name : String) (known : List String)
  | unknownVariant (name : String) (known : List String)
  | uuid (m : Uuid.Misread)
  | time (m : Time.Misread)
  | durationOverflow
deriving DecidableEq

def alternatives : List String → String
  | [a, b] => "`" ++ a ++ "` or `" ++ b ++ "`"
  | names => "one of " ++ ", ".intercalate (names.map fun n => "`" ++ n ++ "`")

def Mismatch.message : Mismatch → String
  | .invalidType found expected => "invalid type: " ++ found.message ++ ", expected " ++ expected
  | .invalidValue found expected => "invalid value: " ++ found.message ++ ", expected " ++ expected
  | .invalidLength n expected => "invalid length " ++ natText n ++ ", expected " ++ expected
  | .missingField name => "missing field `" ++ name ++ "`"
  | .duplicateField name => "duplicate field `" ++ name ++ "`"
  | .unknownField name known => "unknown field `" ++ name ++ "`, expected " ++ alternatives known
  | .unknownVariant name known => "unknown variant `" ++ name ++ "`, expected " ++ alternatives known
  | .uuid m => "UUID parsing failed: " ++ m.message
  | .time m => m.message
  | .durationOverflow => "overflow deserializing Duration"

inductive Problem
  | endInList
  | endInObject
  | endInString
  | endInValue
  | colonWanted
  | listEndWanted
  | objectEndWanted
  | wordWanted
  | valueWanted
  | escape
  | number
  | numberRange
  | controlCharacter
  | keyWanted
  | loneSurrogate
  | hexEnd
  | trailingComma
  | trailingCharacters
  | depth
  | mismatch (m : Mismatch)
deriving DecidableEq

def Problem.message : Problem → String
  | .endInList => "EOF while parsing a list"
  | .endInObject => "EOF while parsing an object"
  | .endInString => "EOF while parsing a string"
  | .endInValue => "EOF while parsing a value"
  | .colonWanted => "expected `:`"
  | .listEndWanted => "expected `,` or `]`"
  | .objectEndWanted => "expected `,` or `\x7d`"
  | .wordWanted => "expected ident"
  | .valueWanted => "expected value"
  | .escape => "invalid escape"
  | .number => "invalid number"
  | .numberRange => "number out of range"
  | .controlCharacter => "control character (\\u0000-\\u001F) found while parsing a string"
  | .keyWanted => "key must be a string"
  | .loneSurrogate => "lone leading surrogate in hex escape"
  | .hexEnd => "unexpected end of hex escape"
  | .trailingComma => "trailing comma"
  | .trailingCharacters => "trailing characters"
  | .depth => "recursion limit exceeded"
  | .mismatch m => m.message

inductive Category
  | malformed
  | mistyped
  | unfinished
deriving DecidableEq

def Problem.category : Problem → Category
  | .endInList | .endInObject | .endInString | .endInValue => .unfinished
  | .mismatch _ => .mistyped
  | _ => .malformed

/-- Columns count bytes. -/
structure Position where
  line : Nat
  column : Nat
deriving DecidableEq

def Position.after : List Char → Nat → Position → Position
  | [], _, p => p
  | c :: cs, bytes, p =>
    if bytes = 0 then p
    else if c = '\n' then after cs (bytes - 1) ⟨p.line + 1, 0⟩
    else after cs (bytes - c.utf8Size) ⟨p.line, p.column + min bytes c.utf8Size⟩

def Position.text (p : Position) : String := " at line " ++ natText p.line ++ " column " ++ natText p.column

structure Error where
  problem : Problem
  position : Option Position
deriving DecidableEq

def Error.message (e : Error) : String := e.problem.message ++ e.position.elim "" Position.text

end Outbox.Json
