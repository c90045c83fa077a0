import Outbox.Worker.Iteration

namespace Outbox

/-- What ends a pause: its time, a value sent to the worker, or the loss of whoever could send one. A
value sent during an iteration ends the pause after it. -/
inductive Wake
  | elapsed
  | told (stop : Bool)
  | abandoned
deriving DecidableEq

inductive Phase
  | pausing (d : Duration)
  | stopped
  | broken (a : Abort)
deriving DecidableEq

structure Loop where
  tally : Tally
  phase : Phase
deriving DecidableEq

namespace Loop

open Worker (target)

variable (s : Settings)

def startedEvent : LogEvent :=
  .of .info target "outbox processor started"
    [("worker_id", .shown s.workerId), ("topic", .shown s.topic), ("batch_size", .number s.batchSize)]

def claimFailedEvent (e : StoreError) : LogEvent :=
  .of .error target "failed to claim outbox batch" [("worker_id", .shown s.workerId), ("error", .shown e.message)]

def stoppedEvent : LogEvent := .of .info target "outbox processor stopped" [("worker_id", .shown s.workerId)]

def pauseAfter (r : Report) : Duration := if r.claimed = 0 then s.idleInterval else s.batchPause

variable {m : Type → Type} [Monad m] (b : Backend m)

def turn (t : Tally) : m Loop := do
  match ← (Worker.runOnce s b).run with
  | .ok r => return ⟨t.absorb r, .pausing (pauseAfter s r)⟩
  | .error (.refused e) =>
    b.log (claimFailedEvent s e)
    return ⟨t.refuse, .pausing s.idleInterval⟩
  | .error (.aborted a) => return ⟨t, .broken a⟩

def stop (t : Tally) : m Loop := do
  b.log (stoppedEvent s)
  return ⟨t, .stopped⟩

def start (told : Bool) : m Loop := do
  b.log (startedEvent s)
  if told then stop s b .zero else turn s b .zero

def wake (l : Loop) (w : Wake) : m Loop :=
  match l.phase, w with
  | .pausing _, .elapsed | .pausing _, .told false => turn s b l.tally
  | .pausing _, .told true | .pausing _, .abandoned => stop s b l.tally
  | _, _ => return l

def run (told : Bool) (wakes : List Wake) : m Loop := do wakes.foldlM (wake s b) (← start s b told)

end Loop

end Outbox
