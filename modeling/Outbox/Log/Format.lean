import Outbox.Text.Blank

namespace Outbox

inductive LogFormat
  | json
  | pretty
deriving DecidableEq

def LogFormat.read (raw : Option String) : LogFormat :=
  if raw.any fun s => Text.asciiLower (Text.trim s) == "pretty" then .pretty else .json

end Outbox
