import Outbox.Proofs.Worker.Answer
import Outbox.Proofs.Worker.Budget

namespace Outbox

/-- What the clock says each time it is read, and the publisher each time it is called. -/
structure Surroundings where
  clock : Nat → Time
  verdict : Nat → Message → Except PublishError Unit

structure Solo where
  store : Store
  readings : Nat
  calls : Nat

namespace Surroundings

variable (u : Surroundings)

def backend (listening : Bool) : Backend (StateM Solo) where
  now w := (u.clock w.readings, { w with readings := w.readings + 1 })
  claim take worker lease now w :=
    match w.store.claim take worker lease now with
    | .ok (batch, store) => (.ok batch, { w with store })
    | .error e => (.error (.refused e), w)
  publish m w := (.ok (u.verdict w.calls m), { w with calls := w.calls + 1 })
  markProcessed id now w :=
    match w.store.markProcessed id now with
    | .ok store => (.ok (), { w with store })
    | .error e => (.error e, w)
  markFailed id error now policy w :=
    match w.store.markFailed id error now policy with
    | .ok (outcome, store) => (.ok outcome, { w with store })
    | .error e => (.error e, w)
  log _ w := ((), w)
  hearsWarnings := listening

def iteration (s : Settings) (listening : Bool) (w : Solo) : Except Interruption Report × Solo :=
  (Worker.runOnce s (u.backend listening)).run w

def iterations (s : Settings) (listening : Bool) : Nat → Solo → List (Except Interruption Report) × Solo
  | 0, w => ([], w)
  | n + 1, w =>
    let (result, w) := u.iteration s listening w
    let (results, w) := iterations s listening n w
    (result :: results, w)

def IsBusy : Except Interruption Report → Bool
  | .ok report => 0 < report.claimed
  | .error _ => false

/-- A worker iterates as long as rows are claimed: `n` iterations claim some, and the one after them none. -/
inductive Drains (s : Settings) (listening : Bool) : Nat → Solo → Solo → Prop
  | idle {w w'} (report : Report) (h : u.iteration s listening w = (.ok report, w')) (hidle : report.claimed = 0) :
      Drains s listening 0 w w'
  | busy {n w w' w''} (report : Report) (h : u.iteration s listening w = (.ok report, w'))
      (hbusy : 0 < report.claimed) (hrest : Drains s listening n w' w'') : Drains s listening (n + 1) w w''

end Surroundings

namespace Solo

open Worker

variable (u : Surroundings) (s : Settings) (listening : Bool) {r : Row} {w : Solo}

theorem deliver_run (r : Row) (w : Solo) :
    ∃ result calls, (deliver s r (u.backend listening)).run w = (.ok result, { w with calls }) := by
  unfold deliver
  split
  · exact ⟨_, w.calls, rfl⟩
  · exact ⟨_, w.calls + 1, rfl⟩

theorem warn_run (hspare : r.attempts.toNat < 0xFFFFFFFF) (error : String) :
    (warn s r (u.backend listening) error).run w = (.ok (), w) := by
  rw [warn_of_lt hspare]
  split <;> rfl

theorem resolveDelivered_run (hr : w.store.get? r.id = some r) (hlive : r.isTerminal = false) :
    resolveDelivered s r (u.backend listening) w =
      (.published, { w with
        store := w.store.put (r.processed (u.clock w.readings)), readings := w.readings + 1 }) := by
  have hnow : (u.backend listening).now w = (u.clock w.readings, { w with readings := w.readings + 1 }) := rfl
  have hmark : (u.backend listening).markProcessed r.id (u.clock w.readings) { w with readings := w.readings + 1 } =
      (.ok (), { w with store := w.store.put (r.processed (u.clock w.readings)), readings := w.readings + 1 }) := by
    simp only [Surroundings.backend, Store.markProcessed_live hr hlive]
  exact resolveDelivered_marked hnow hmark

theorem resolveFailed_run (hr : w.store.get? r.id = some r) (hlive : r.isTerminal = false) (error : String) :
    ∃ resolution, resolveFailed s r (u.backend listening) error w =
      (resolution, { w with
        store := w.store.put (r.failed error (u.clock w.readings) s.retry), readings := w.readings + 1 }) := by
  have hnow : (u.backend listening).now w = (u.clock w.readings, { w with readings := w.readings + 1 }) := rfl
  generalize hq : r.failed error (u.clock w.readings) s.retry = q
  have hmark : (u.backend listening).markFailed r.id error (u.clock w.readings) s.retry
      { w with readings := w.readings + 1 } = (.ok (Row.failureOutcome q.attempts q.nextAttemptAt),
        { w with store := w.store.put q, readings := w.readings + 1 }) := by
    simp only [Surroundings.backend, Store.markFailed_live hr hlive, hq]
  rw [resolveFailed, bind_eq hnow, bind_eq hmark]
  cases q.nextAttemptAt with
  | some next => exact ⟨.retried, rfl⟩
  | none => exact ⟨.deadLettered, rfl⟩

theorem dispatch_run (hr : w.store.get? r.id = some r) (hlive : r.isTerminal = false)
    (hspare : r.attempts.toNat < 0xFFFFFFFF) :
    ∃ resolution w' q, (dispatch s r (u.backend listening)).run w = (.ok resolution, w') ∧
      w'.store = w.store.put q ∧ r.IsDispatched s.retry q := by
  obtain ⟨result, calls, hdeliver⟩ := deliver_run u s listening r w
  rw [dispatch, run_bind_ok hdeliver]
  cases result with
  | ok =>
      have hresolve := resolveDelivered_run u s listening (w := { w with calls }) hr hlive
      exact ⟨.published, _, _, by rw [run_lift, hresolve], rfl, .inl ⟨u.clock w.readings, rfl⟩⟩
  | error e =>
      obtain ⟨resolution, hresolve⟩ := resolveFailed_run u s listening (w := { w with calls }) hr hlive e.message
      have hwarn := warn_run u s listening (w := { w with calls }) hspare e.message
      exact ⟨resolution, _, _, by rw [run_bind_ok hwarn, run_lift, hresolve], rfl,
        .inr ⟨e.message, u.clock w.readings, rfl⟩⟩

end Solo

end Outbox
