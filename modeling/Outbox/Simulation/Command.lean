import Outbox.AccountService
import Outbox.Simulation.Clockwork

namespace Outbox.Simulation

abbrev AnyRecord := EventRecord (AccountEvent ⊕ CustomEvent)

inductive Command
  | act (a : Action)
  | plan (interludes : List (List Interlude))
  | request (service : Nat) (correlationId : Option String) (r : AccountRequest)
  | account (id : AccountId)
  | findCpf (cpf : Cpf)
  | beginUnit (name : String)
  | load (name : String) (id : AccountId)
  | save (name : String) (a : Account)
  | stage (name : String) (rows : List Row)
  | staged (name : String)
  | commit (name : String)
  | rollback (name : String)
  | enqueue (name : Option String) (records : List AnyRecord) (correlationId reject : Option String)
  | runOnce (s : Settings)
  | spawn (ms : Nat) (s : Settings)
  | follow (told : Bool) (signals : List (Nat × Option Bool)) (s : Settings)

inductive Answer
  | acted (result : Except Fault Outcome)
  | nothing
  | account (a : Option Account)
  | requested (result : Except ServiceError Account) (outboxSize : Nat)
  | staged (rows : List Row)
  | committed (result : Except StoreError Nat)
  | enqueued (result : Except DispatchError Nat) (rows : List Row)
  | iterated (result : Except Interruption Report) (stats : StoreStats) (worker : String)
  | tallied (t : Tally)
  | followed (tallies : List Tally) (loop : Loop)
  | noUnit

namespace World

def size (w : World) : Nat := w.store.rows.size

def unit? (w : World) (name : String) : Option UnitOfWork := w.units.lookup name

def dropUnit (w : World) (name : String) : World := { w with units := w.units.filter (·.1 ≠ name) }

def putUnit (w : World) (name : String) (u : UnitOfWork) : World :=
  { w with units := (name, u) :: (w.dropUnit name).units }

variable (listening : Bool) (w : World)

def request (service : Nat) (correlationId : Option String) (r : AccountRequest) : Answer × World :=
  let ids := w.services.getD service (.sequential 1)
  let answered := AccountService.handle ⟨w.accounts, w.store, ids⟩ .byId w.now correlationId r
  let (result, l) := answered.value
  let after := { w with accounts := l.accounts, store := l.store, services := w.services.set service l.ids }
  (.requested result after.size, after.note listening answered.events)

def commitUnit (name : String) (u : UnitOfWork) : Answer × World :=
  let committed := u.commit w.accounts w.store
  let after := (w.dropUnit name).note listening committed.events
  match committed.value with
  | .ok (accounts, store) =>
    let after := { after with accounts, store }
    (.committed (.ok after.size), after)
  | .error e => (.committed (.error e), after)

def staging {σ : Type} (add : Staging σ) (reject : Option String) : Staging σ := fun area rows =>
  match reject with
  | some detail => (.error (.storage detail), area)
  | none => add area rows

def enqueue (name : Option String) (records : List AnyRecord) (correlationId reject : Option String) :
    Answer × World :=
  match name with
  | some name =>
    match w.unit? name with
    | none => (.noUnit, w)
    | some u =>
      let queued := Dispatch.enqueue .json (staging .unit reject) w.now u records correlationId
      let w := w.note listening queued.events
      let (result, u) := queued.value
      (.enqueued result u.staged, w.putUnit name u)
  | none =>
    let queued := Dispatch.enqueue .json (staging .list reject) w.now [] records correlationId
    let w := w.note listening queued.events
    match queued.value with
    | (.error e, rows) => (.enqueued (.error e) rows, w)
    | (.ok count, rows) =>
      match w.store.add rows with
      | .ok store => (.enqueued (.ok count) rows, { w with store })
      | .error e => (.acted (.error (.store e)), w)

def withUnit (name : String) (f : UnitOfWork → Answer × World) : Answer × World :=
  match w.unit? name with
  | some u => f u
  | none => (.noUnit, w)

end World

namespace Command

open World

variable (listening : Bool) (w : World)

def run : Command → Answer × World
  | .act a =>
    let (result, w) := a.run w
    (.acted result, w)
  | .plan interludes => (.nothing, { w with interludes := w.interludes ++ interludes })
  | .request service correlationId r => w.request listening service correlationId r
  | .account id => (.account (w.accounts.get? id), w)
  | .findCpf cpf => (.account (w.accounts.findByCpf .byId cpf), w)
  | .beginUnit name => (.nothing, w.putUnit name .start)
  | .load name id => w.withUnit name fun u => (.account (u.load w.accounts id), w)
  | .save name a => w.withUnit name fun u => (.nothing, w.putUnit name (u.save a))
  | .stage name rows => w.withUnit name fun u => (.staged (u.stage rows).staged, w.putUnit name (u.stage rows))
  | .staged name => w.withUnit name fun u => (.staged u.staged, w)
  | .commit name => w.withUnit name fun u => w.commitUnit listening name u
  | .rollback name => w.withUnit name fun _ => (.committed (.ok w.size), w.dropUnit name)
  | .enqueue name records correlationId reject => w.enqueue listening name records correlationId reject
  | .runOnce s =>
    let (result, w) := (Worker.runOnce s (backend listening)).run w
    (.iterated result (w.store.stats w.now) s.workerId, w)
  | .spawn ms s =>
    let (tally, w) := Running.spawn s (backend listening) ms w
    (.tallied tally, w)
  | .follow told signals s =>
    let (answer, w) := Running.follow s (backend listening) told signals w
    (.followed answer.1 answer.2, w)

def runAll : List Command → World → List (Answer × List LogEvent) × World
  | [], w => ([], w)
  | c :: cs, w =>
    let (answer, after) := run listening { w with log := [] } c
    let (answers, last) := runAll cs after
    ((answer, after.log) :: answers, last)

end Command

end Outbox.Simulation
