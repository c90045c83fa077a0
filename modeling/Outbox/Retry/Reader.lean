import Outbox.Json.Typed
import Outbox.Retry

namespace Outbox.RetryPolicy

open Json

inductive Member
  | attempts (n : UInt32)
  | backoff (d : Duration)

def ofMembers : List Member → Except Mismatch RetryPolicy
  | [.attempts n, .backoff base, .backoff max] => .ok ⟨n, base, max⟩
  | _ => .error (.missingField "max_attempts")

def read : Reader RetryPolicy :=
  record "struct RetryPolicy" "struct RetryPolicy with 3 elements" false
    [.required "max_attempts" fun cs => (word32 cs).map fun (n, rest) => (.attempts n, rest),
      .required "base_backoff" fun cs => (duration cs).map fun (d, rest) => (.backoff d, rest),
      .required "max_backoff" fun cs => (duration cs).map fun (d, rest) => (.backoff d, rest)] ofMembers

def parse (s : String) : Except Json.Error RetryPolicy := readAll read s

end Outbox.RetryPolicy
