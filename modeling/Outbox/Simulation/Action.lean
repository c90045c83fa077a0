import Outbox.Abort
import Outbox.Publisher
import Outbox.Store
import Outbox.UnitOfWork

namespace Outbox.Simulation

inductive Action
  | setClock (t : Time)
  | advance (delta : Int)
  | add (rows : List Row)
  | claim (take : Nat) (worker : String) (lease : Duration) (at? : Option Time)
  | markProcessed (id : EventId) (at? : Option Time)
  | markFailed (id : EventId) (error : String) (policy : RetryPolicy) (at? : Option Time)
  | find (id : EventId)
  | deadLetters (limit : Nat)
  | all
  | requeue (id : EventId)
  | purge (before : Time)
  | stats (at? : Option Time)
  | size
  | failNext (count : Nat)
  | failKey (key : String)
  | healKey (key : String)
  | publish (m : Message)

/-- Done around a publish call before it reaches the publisher, which it never does once a failure
is raised. -/
inductive Interlude
  | act (a : Action)
  | raise (e : PublishError)

structure World where
  now : Time
  store : Store
  accounts : AccountStore
  publisher : Publisher
  services : List IdSource
  units : List (String × UnitOfWork)
  interludes : List (List Interlude)
  log : List LogEvent

namespace World

def start (now : Time) (services : List IdSource) : World := ⟨now, .empty, .empty, .fresh, services, [], [], []⟩

end World

inductive Outcome
  | nothing
  | time (t : Time)
  | count (n : Nat)
  | size (n : Nat)
  | rows (rs : List Row)
  | row (r : Option Row)
  | failed (outcome : FailureOutcome) (after : Option Row)
  | ids (ids : List EventId)
  | stats (s : StoreStats)

inductive Fault
  | store (e : StoreError)
  | publish (e : PublishError)
  | aborted (a : Abort)

namespace Action

variable (w : World)

def withStore (r : Except StoreError (Outcome × Store)) : Except Fault Outcome × World :=
  match r with
  | .ok (outcome, store) => (.ok outcome, { w with store })
  | .error e => (.error (.store e), w)

def withPublisher (publisher : Publisher) : Except Fault Outcome × World := (.ok .nothing, { w with publisher })

def onStore (s : Store) (now : Time) : Action → Except StoreError (Outcome × Store)
  | .add rows => do
    let s ← s.add rows
    return (.count s.rows.size, s)
  | .claim take worker lease at? => do
    let (batch, s) ← s.claim take worker lease (at?.getD now)
    return (.rows batch, s)
  | .markProcessed id at? => do
    let s ← s.markProcessed id (at?.getD now)
    return (.row (s.get? id), s)
  | .markFailed id error policy at? => do
    let (outcome, s) ← s.markFailed id error (at?.getD now) policy
    return (.failed outcome (s.get? id), s)
  | .find id => return (.row (s.get? id), s)
  | .deadLetters limit => return (.ids ((s.deadLetters limit).map (·.id)), s)
  | .all => return (.ids (s.all.map (·.id)), s)
  | .requeue id => do
    let (row, s) ← s.requeue id
    return (.row (some row), s)
  | .purge before =>
    let (count, s) := s.purge before
    return (.count count, s)
  | .stats at? => return (.stats (s.stats (at?.getD now)), s)
  | .size => return (.size s.rows.size, s)
  | _ => return (.nothing, s)

/-- A refused action leaves the world as it was; a publish call counts even so. -/
def run : Action → Except Fault Outcome × World
  | .setClock t => (.ok (.time t), { w with now := t })
  | .advance delta =>
    match w.now.shift? delta with
    | some t => (.ok (.time t), { w with now := t })
    | none => (.error (.aborted .calendar), w)
  | .failNext count => withPublisher w { w.publisher with failNext := count }
  | .failKey key => withPublisher w (w.publisher.failKey key)
  | .healKey key => withPublisher w (w.publisher.healKey key)
  | .publish m =>
    match w.publisher.publish m with
    | (.ok (), publisher) => (.ok (.count publisher.attempts), { w with publisher })
    | (.error e, publisher) => (.error (.publish e), { w with publisher })
  | a => withStore w (onStore w.store w.now a)

end Action

namespace World

def perform (w : World) : List Interlude → Except Abort (Option PublishError) × World
  | [] => (.ok none, w)
  | .raise e :: _ => (.ok (some e), w)
  | .act a :: rest =>
    match a.run w with
    | (.error (.aborted limit), w) => (.error limit, w)
    | (_, w) => perform w rest

end World

end Outbox.Simulation
