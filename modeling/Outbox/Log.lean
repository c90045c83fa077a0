namespace Outbox

/-- Most severe first. -/
inductive Level
  | error
  | warn
  | info
  | debug
  | trace
deriving DecidableEq

namespace Level

def rank : Level → Nat
  | .error => 1
  | .warn => 2
  | .info => 3
  | .debug => 4
  | .trace => 5

def text : Level → String
  | .error => "ERROR"
  | .warn => "WARN"
  | .info => "INFO"
  | .debug => "DEBUG"
  | .trace => "TRACE"

end Level

/-- A field of a log event. Lines for people put `quoted` texts between quotes, and no others. -/
inductive LogValue
  | quoted (s : String)
  | shown (s : String)
  | number (n : Int)
  | flag (b : Bool)
deriving DecidableEq

structure LogSpan where
  name : String
  target : String
  fields : List (String × Option LogValue)
deriving DecidableEq

def LogSpan.level : Level := .info

structure LogEvent where
  level : Level
  target : String
  fields : List (String × LogValue)
  spans : List LogSpan
deriving DecidableEq

namespace LogEvent

def of (level : Level) (target message : String) (fields : List (String × LogValue)) : LogEvent :=
  ⟨level, target, ("message", .shown message) :: fields, []⟩

def within (span : LogSpan) (e : LogEvent) : LogEvent := { e with spans := span :: e.spans }

end LogEvent

structure Logged (α : Type) where
  events : List LogEvent
  value : α

namespace Logged

instance : Monad Logged where
  pure a := ⟨[], a⟩
  bind x f := ⟨x.events ++ (f x.value).events, (f x.value).value⟩

def log (e : LogEvent) : Logged Unit := ⟨[e], ()⟩

end Logged

end Outbox
