import Outbox.Simulation.Action
import Outbox.Worker.Loop

namespace Outbox.Simulation

namespace World

def publish (m : Message) : StateM World (Except Abort (Except PublishError Unit)) := fun w =>
  match perform { w with interludes := w.interludes.tail } (w.interludes.headD []) with
  | (.error limit, w) => (.error limit, w)
  | (.ok (some e), w) => (.ok (.error e), w)
  | (.ok none, w) =>
    let (result, publisher) := w.publisher.publish m
    (.ok result, { w with publisher })

def note (listening : Bool) (events : List LogEvent) (w : World) : World :=
  if listening then { w with log := w.log ++ events } else w

def backend (listening : Bool) : Backend (StateM World) where
  now w := (w.now, w)
  claim take worker lease now w :=
    match w.store.claim take worker lease now with
    | .ok (batch, store) => (.ok batch, { w with store })
    | .error e => (.error (.refused e), w)
  publish := publish
  markProcessed id now w :=
    match w.store.markProcessed id now with
    | .ok store => (.ok (), { w with store })
    | .error e => (.error e, w)
  markFailed id error now policy w :=
    match w.store.markFailed id error now policy with
    | .ok (outcome, store) => (.ok outcome, { w with store })
    | .error e => (.error e, w)
  log e w := ((), w.note listening [e])
  hearsWarnings := listening

end World

structure Running where
  loop : Loop
  since : Nat

namespace Running

/-- Thirty years of 365 days, in milliseconds. No pause is longer. -/
def longestPause : Nat := 946_080_000_000

/-- A pause takes whole milliseconds, the last one to its end, and none where it has no length. -/
def millis (d : Duration) : Nat := min longestPause ((d.nanos + (1_000_000 - 1)) / 1_000_000)

def due? (r : Running) : Option Nat :=
  match r.loop.phase with
  | .pausing d => some (r.since + millis d)
  | _ => none

variable (s : Settings) (b : Backend (StateM World))

def passTo (deadline : Nat) : Nat → Running → StateM World Running
  | 0, r => return r
  | fuel + 1, r =>
    match r.due? with
    | none => return r
    | some due =>
      if deadline ≤ due then return r
      else do
        let loop ← r.loop.wake s b .elapsed
        passTo deadline fuel ⟨loop, due⟩

/-- Iterations are counted in 64 bits, so no worker ever gets through more pauses than these. -/
def pass (r : Running) (deadline : Nat) : StateM World Running := passTo s b deadline (0x1_0000_0000_0000_0000) r

def wake (r : Running) (moment : Nat) (w : Wake) : StateM World Running := do return ⟨← r.loop.wake s b w, moment⟩

def start (told : Bool) : StateM World Running := do return ⟨← Loop.start s b told, 0⟩

def signalled : List (Nat × Option Bool) → Running → StateM World (List Tally × Loop)
  | [], r => do return ([], ← r.loop.wake s b .abandoned)
  | (moment, value?) :: rest, r => do
    let r ← pass s b r moment
    let after ← match value? with
      | some value => wake s b r moment (.told value)
      | none => pure r
    let (tallies, loop) ← signalled rest after
    return (r.loop.tally :: tallies, loop)

/-- A worker that runs for some milliseconds and is then told to stop. Its tally is the one at that moment. -/
def spawn (ms : Nat) : StateM World Tally := do
  let r ← pass s b (← start s b false) ms
  let _ ← wake s b r ms (.told true)
  return r.loop.tally

def follow (told : Bool) (signals : List (Nat × Option Bool)) : StateM World (List Tally × Loop) := do
  signalled s b signals (← start s b told)

end Running

end Outbox.Simulation
