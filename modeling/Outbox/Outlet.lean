import Outbox.Text.Blank

namespace Outbox

inductive Outlet
  | kafka
  | log
deriving DecidableEq

namespace Outlet

def read (raw : Option String) : Except String Outlet :=
  match raw.map Text.trim with
  | none | some "kafka" => .ok .kafka
  | some "log" => .ok .log
  | some other => .error ("invalid OUTBOX_PUBLISHER '" ++ other ++ "' (expected kafka or log)")

/-- There is no broker to send to. -/
def check : Outlet → Except String Unit
  | .kafka =>
    .error "built without the kafka feature; rebuild with --features kafka or set OUTBOX_PUBLISHER=log"
  | .log => .ok ()

end Outlet

end Outbox
