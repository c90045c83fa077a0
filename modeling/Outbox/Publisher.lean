import Outbox.Duration

namespace Outbox

inductive PublishError
  | broker (detail : String)
  | timeout (after : Duration)
  | unavailable (detail : String)
deriving DecidableEq

def PublishError.message : PublishError → String
  | .broker detail => "broker error: " ++ detail
  | .timeout after => "publish timed out after " ++ after.text
  | .unavailable detail => "publisher unavailable: " ++ detail

structure Message where
  topic : String
  key : String
  text : String
deriving DecidableEq

structure Publisher where
  accepted : List Message
  attempts : Nat
  failNext : Nat
  failingKeys : List String
deriving DecidableEq

namespace Publisher

def fresh : Publisher := ⟨[], 0, 0, []⟩

/-- Failures told by count come before those told by key. -/
def publish (p : Publisher) (m : Message) : Except PublishError Unit × Publisher :=
  let p := { p with attempts := p.attempts + 1 }
  if 0 < p.failNext then (.error (.unavailable "scripted failure"), { p with failNext := p.failNext - 1 })
  else if p.failingKeys.contains m.key then (.error (.broker ("key " ++ m.key ++ " rejected")), p)
  else (.ok (), { p with accepted := p.accepted ++ [m] })

def failKey (p : Publisher) (key : String) : Publisher := { p with failingKeys := p.failingKeys.insert key }

def healKey (p : Publisher) (key : String) : Publisher := { p with failingKeys := p.failingKeys.erase key }

end Publisher

end Outbox
