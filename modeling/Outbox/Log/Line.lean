import Outbox.Json.Value
import Outbox.Log.Filter
import Outbox.Log.Format
import Outbox.Text.Pieces
import Outbox.Text.Quoted

namespace Outbox

def LogValue.toJson : LogValue → Json
  | .quoted s | .shown s => .text s
  | .number n => .raw (toString n)
  | .flag b => .flag b

def LogValue.pretty : LogValue → String
  | .quoted s => Text.quoted s
  | .shown s => s
  | .number n => toString n
  | .flag b => if b then "true" else "false"

def LogEvent.harmless (s : String) : String :=
  String.ofList (s.toList.flatMap fun c =>
    if c.toNat ∈ [0x07, 0x08, 0x0C, 0x1B, 0x7F] then '\\' :: 'x' :: Text.hexDigits 2 c.toNat
    else if 0x80 ≤ c.toNat ∧ c.toNat ≤ 0x9F then '\\' :: 'u' :: '\x7b' :: Text.hexDigits 2 c.toNat ++ ['\x7d']
    else [c])

def LogEvent.prettyField : String × LogValue → String
  | ("message", .quoted s) => LogEvent.harmless s
  | ("message", v) => LogEvent.harmless v.pretty
  | (name, v) => name ++ ": " ++ v.pretty

def LogSpan.pretty (span : LogSpan) : String :=
  let fields := span.fields.filterMap fun (name, v) => v.map fun v => LogEvent.prettyField (name, v)
  "in " ++ span.target ++ "::" ++ span.name ++
    if fields.isEmpty then "" else " with " ++ ", ".intercalate fields

namespace LogEvent

def toJson (e : LogEvent) : Json :=
  .object [("level", .text e.level.text), ("fields", .object (e.fields.map fun (name, v) => (name, v.toJson)))]

def pretty (e : LogEvent) : String :=
  "\n".intercalate
    ((e.level.text ++ " " ++ e.target ++ ": " ++ ", ".intercalate (e.fields.map prettyField)) ::
      e.spans.reverse.map (·.pretty))

def isPlace (line : String) : Bool := ['a', 't', ' '].isPrefixOf line.toList

/-- People get no blank lines, and none that only say a place. -/
def lines (format : LogFormat) (e : LogEvent) : List String :=
  match format with
  | .json => [e.toJson.render]
  | .pretty => (Text.lines e.pretty).filter fun line => !line.isEmpty && !isPlace line

end LogEvent

structure LogSink where
  format : LogFormat
  filter : LogFilter

namespace LogSink

def ofEnvironment (env : String → Option String) : Except Abort LogSink :=
  (LogFilter.read (env "RUST_LOG")).map fun filter => ⟨.read (env "LOG_FORMAT"), filter⟩

def lines (sink : LogSink) (events : List LogEvent) : List String :=
  (events.filter sink.filter.admits).flatMap fun e =>
    LogEvent.lines sink.format { e with spans := e.spans.filter sink.filter.knows }

end LogSink

end Outbox
