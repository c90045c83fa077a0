import Outbox.Proofs.Postgres.Limit
import Outbox.Proofs.Settings
import Outbox.Proofs.Worker.Perform
import Outbox.Proofs.Worker.Solo
import Outbox.Worker.Startup

namespace Outbox

namespace Worker

variable {s : Settings} {listening : Bool} {r : Row} {rows : List Row} {report : Report} {ds : List Deed} {a : Abort}

/-- Rows are dispatched up to one that is not delivered and whose attempts cannot be counted any further. -/
inductive StopsShort (s : Settings) (listening : Bool) : List Row → List Deed → Prop
  | here (r : Row) (rows : List Row) (ds : List Deed) (e : DeliveryError) (hd : Delivers s r ds (.ok (.error e)))
      (hcount : listening = true ∧ r.attempts = 0xFFFFFFFF) : StopsShort s listening (r :: rows) ds
  | later (r : Row) (rows : List Row) (ds ds' : List Deed) (x : Resolution) (hr : Dispatches s listening r ds (.ok x))
      (h : StopsShort s listening rows ds') : StopsShort s listening (r :: rows) (ds ++ ds')

def IsCut (s : Settings) (listening : Bool) (ds : List Deed) : Prop :=
  ∃ t batch ds', ds = .claim s.batchSize s.workerId s.lease t (.ok batch) :: ds' ∧ StopsShort s listening batch ds'

theorem StopsShort.heard (h : StopsShort s listening rows ds) : listening = true := by
  induction h with
  | here _ _ _ _ _ hcount => exact hcount.1
  | later _ _ _ _ _ _ _ ih => exact ih

theorem not_isCut_unheard : ¬ IsCut s false ds := by
  rintro ⟨t, batch, ds, -, hstops⟩
  cases hstops.heard

theorem delivers_error (h : Delivers s r ds (.error a)) : ∃ m, .publish m (.error a) ∈ ds := by
  generalize hresult : Except.error a = result at h
  cases h with
  | unwritten => cases hresult
  | published m answer =>
      cases answer with
      | ok => cases hresult
      | error =>
          cases hresult
          exact ⟨m, .head _⟩

theorem dispatchesAll_error (h : DispatchesAll s listening rows report ds (.error a)) :
    (∃ m, .publish m (.error a) ∈ ds) ∨ a = .counter ∧ StopsShort s listening rows ds := by
  generalize hresult : Except.error a = result at h
  induction h with
  | nil => cases hresult
  | cons r rows report ds ds' x result hr _ ih =>
      obtain ⟨m, hm⟩ | ⟨ha, hstops⟩ := ih hresult
      · exact .inl ⟨m, List.mem_append_right ds hm⟩
      · exact .inr ⟨ha, .later r rows ds ds' x hr hstops⟩
  | aborted r rows report ds a' hr =>
      cases hresult
      cases hr with
      | uncounted ds e hd hcount => exact .inr ⟨rfl, .here r rows ds e hd hcount⟩
      | aborted ds a hd => exact .inl (delivers_error hd)

theorem iterates_aborted (h : Iterates s listening ds (.error (.aborted a))) :
    (∃ t, .claim s.batchSize s.workerId s.lease t (.error (.aborted a)) ∈ ds) ∨ (∃ m, .publish m (.error a) ∈ ds) ∨
      a = .counter ∧ IsCut s listening ds := by
  generalize hresult : Except.error (Interruption.aborted a) = result at h
  cases h with
  | refused t e =>
      cases hresult
      exact .inl ⟨t, .head _⟩
  | claimed t batch ds result hrows =>
      cases result with
      | ok => cases hresult
      | error =>
          cases hresult
          obtain ⟨m, hm⟩ | ⟨ha, hstops⟩ := dispatchesAll_error hrows
          · exact .inr (.inl ⟨m, .tail _ hm⟩)
          · exact .inr (.inr ⟨ha, t, batch, ds, rfl, hstops⟩)

theorem runOnce_ends {σ : Type} (s : Settings) (b : Backend (StateM σ)) (w : σ) :
    ∃ ds, b.Does w ds ((runOnce s b).run w).2 ∧
      ((∃ x : Except StoreError Report, ((runOnce s b).run w).1 = x.mapError .refused ∧
        Shift.IsWhole s b.hearsWarnings ⟨ds, x⟩) ∨
      ((runOnce s b).run w).1 = .error (.aborted .counter) ∧ IsCut s b.hearsWarnings ds ∨
      ∃ a v, ((runOnce s b).run w).1 = .error (.aborted a) ∧
        ((∃ t, (b.claim s.batchSize s.workerId s.lease t v).1 = .error (.aborted a)) ∨
          ∃ m, (b.publish m v).1 = .error a)) := by
  obtain ⟨ds, hdoes, hiterates⟩ := iteration_does s b w
  refine ⟨ds, hdoes, ?_⟩
  match hresult : ((runOnce s b).run w).1 with
  | .ok report =>
      rw [hresult] at hiterates
      exact .inl ⟨.ok report, rfl, Shift.isWhole_worked hiterates⟩
  | .error (.refused e) =>
      rw [hresult] at hiterates
      exact .inl ⟨.error e, rfl, Shift.isWhole_refused hiterates⟩
  | .error (.aborted a) =>
      rw [hresult] at hiterates
      obtain ⟨t, ht⟩ | ⟨m, hm⟩ | ⟨rfl, hcut⟩ := iterates_aborted hiterates
      · obtain ⟨v, hv⟩ := hdoes.claim_answer ht
        exact .inr (.inr ⟨a, v, rfl, .inl ⟨t, hv⟩⟩)
      · obtain ⟨v, hv⟩ := hdoes.publish_answer hm
        exact .inr (.inr ⟨a, v, rfl, .inr ⟨m, hv⟩⟩)
      · exact .inr (.inl ⟨rfl, hcut⟩)

end Worker

open Postgres (Exchange Peer)
open Postgres.Store (memoryLimit rowBytes)

structure Wire where
  line : List Exchange
  readings : Nat
  calls : Nat

namespace Surroundings

open Worker

variable (u : Surroundings) {s : Settings} (listening : Bool) (p : Peer) (strategy : ClaimStrategy)

def wired : Backend (StateM Wire) :=
  { Worker.backend (fun d w => ((p.hold d w.line).1, { w with line := (p.hold d w.line).2 }))
      (fun w => (u.clock w.readings, { w with readings := w.readings + 1 })) strategy with
    publish := fun m w => (.ok (u.verdict w.calls m), { w with calls := w.calls + 1 })
    hearsWarnings := listening }

theorem iteration_claimed (hs : s.IsValid) {w : Solo}
    (hnow : (u.clock w.readings).clock + backoffLimit.nanos ≤ Time.latest.clock) :
    ∃ result : Except Abort Report, (u.iteration s listening w).1 = result.mapError .aborted := by
  obtain ⟨expiry, hplus, -⟩ := Time.exists_plus? (Settings.lease_le_backoffLimit hs) hnow
  obtain ⟨batch, w', hclaim⟩ : ∃ batch w', (u.backend listening).claim s.batchSize s.workerId s.lease
      (u.clock w.readings) { w with readings := w.readings + 1 } = (.ok batch, w') := by
    simp only [backend, Store.claim_eq w.store s.batchSize s.workerId (leaseExpiry_eq_ok hs.lease_ge hplus)]
    exact ⟨_, _, rfl⟩
  rw [iteration, runOnce_claimed rfl hclaim]
  exact ⟨_, rfl⟩

theorem iteration_ends (hs : s.IsValid) {w : Solo}
    (hnow : (u.clock w.readings).clock + backoffLimit.nanos ≤ Time.latest.clock) :
    ∃ ds, (u.backend listening).Does w ds (u.iteration s listening w).2 ∧
      ((∃ report, (u.iteration s listening w).1 = .ok report ∧ Shift.IsWhole s listening ⟨ds, .ok report⟩) ∨
        (u.iteration s listening w).1 = .error (.aborted .counter) ∧ IsCut s listening ds) := by
  obtain ⟨result, hresult⟩ := u.iteration_claimed listening hs hnow
  obtain ⟨ds, hdoes, ⟨x, hx, hwhole⟩ | hcut | ⟨a, v, -, ⟨t, ht⟩ | ⟨m, hm⟩⟩⟩ := runOnce_ends s (u.backend listening) w
  · refine ⟨ds, hdoes, .inl ?_⟩
    cases x with
    | ok report => exact ⟨report, hx, hwhole⟩
    | error e =>
        have hrefused := hx.symm.trans hresult
        cases result <;> cases hrefused
  · exact ⟨ds, hdoes, .inr hcut⟩
  · dsimp only [backend] at ht
    split at ht <;> cases ht
  · cases hm

theorem wired_ends (s : Settings) (w : Wire) : ∃ ds,
    (u.wired listening p strategy).Does w ds ((runOnce s (u.wired listening p strategy)).run w).2 ∧
      ((∃ x : Except StoreError Report, ((runOnce s (u.wired listening p strategy)).run w).1 = x.mapError .refused ∧
        Shift.IsWhole s listening ⟨ds, x⟩) ∨
      ((runOnce s (u.wired listening p strategy)).run w).1 = .error (.aborted .counter) ∧ IsCut s listening ds ∨
      ((runOnce s (u.wired listening p strategy)).run w).1 = .error (.aborted .memory) ∧ strategy = .perRow ∧
        memoryLimit < s.batchSize * rowBytes) := by
  obtain ⟨ds, hdoes, hwhole | hcut | ⟨a, v, ha, ⟨t, ht⟩ | ⟨m, hm⟩⟩⟩ := runOnce_ends s (u.wired listening p strategy) w
  · exact ⟨ds, hdoes, .inl hwhole⟩
  · exact ⟨ds, hdoes, .inr (.inl hcut)⟩
  · obtain ⟨rfl, hfull⟩ := Postgres.Store.claim_meets strategy _ _ _ _ p v.line a ht
    exact ⟨ds, hdoes, .inr (.inr ⟨ha, hfull⟩)⟩
  · cases hm

/-- With settings that are accepted, an iteration over a store that begins thirty days before the end of the calendar,
or earlier, dispatches all of its batch, whatever is in the rows and whatever the publisher says. So does one over a
server that may say anything, unless the claim is refused. It is different for a row whose last countable attempt has
failed, if warnings are heard, and for batches that are too large to be leased row by row. -/
theorem nothing_else_escapes {env : Environment} {id : Uuid} (hs : Settings.ofEnvironment env id = .ok s) :
    (∀ w : Solo, (u.clock w.readings).clock + backoffLimit.nanos ≤ Time.latest.clock →
      ∃ ds, (u.backend listening).Does w ds (u.iteration s listening w).2 ∧
        ((∃ report, (u.iteration s listening w).1 = .ok report ∧ Shift.IsWhole s listening ⟨ds, .ok report⟩) ∨
          (u.iteration s listening w).1 = .error (.aborted .counter) ∧ IsCut s listening ds)) ∧
    ∀ (p : Peer) (strategy : ClaimStrategy) (w : Wire), ∃ ds,
      (u.wired listening p strategy).Does w ds ((runOnce s (u.wired listening p strategy)).run w).2 ∧
        ((∃ x : Except StoreError Report, ((runOnce s (u.wired listening p strategy)).run w).1 = x.mapError .refused ∧
          Shift.IsWhole s listening ⟨ds, x⟩) ∨
        ((runOnce s (u.wired listening p strategy)).run w).1 = .error (.aborted .counter) ∧ IsCut s listening ds ∨
        ((runOnce s (u.wired listening p strategy)).run w).1 = .error (.aborted .memory) ∧ strategy = .perRow ∧
          memoryLimit < s.batchSize * rowBytes) :=
  ⟨fun _ hnow => u.iteration_ends listening (Settings.read_isValid hs) hnow,
    fun p strategy w => u.wired_ends listening p strategy s w⟩

def worn : Row := { Row.sample 7 with attempts := 0xFFFFFFFF }

def rejecting : Surroundings := ⟨fun _ => .epoch, fun _ _ => .error (.unavailable "scripted failure")⟩

def vast : Environment := fun var => [("OUTBOX_BATCH_SIZE", "18446744073709551615")].lookup var

/-- Where no warnings are heard the row is a dead letter, and where rows are leased together no batch is too large. -/
theorem nothing_else_escapes_unheard : ∃ s store,
    Settings.ofEnvironment vast default = .ok s ∧ Store.empty.add [worn] = .ok store ∧
      (∃ ds, (rejecting.backend false).Does ⟨store, 0, 0⟩ ds (rejecting.iteration s false ⟨store, 0, 0⟩).2 ∧
        (rejecting.iteration s false ⟨store, 0, 0⟩).1 = .ok ⟨1, 0, 0, 1, 0⟩ ∧
        Shift.IsWhole s false ⟨ds, .ok ⟨1, 0, 0, 1, 0⟩⟩) ∧
      ∃ ds x, ((runOnce s (rejecting.wired false (fun _ _ => .ok ⟨[], 0⟩) .setBased)).run ⟨[], 0, 0⟩).1 =
        x.mapError .refused ∧ Shift.IsWhole s false ⟨ds, x⟩ := by
  obtain ⟨s, hs, hreport⟩ : ∃ s, Settings.ofEnvironment vast default = .ok s ∧
      ∀ store, Store.empty.add [worn] = .ok store →
        (rejecting.iteration s false ⟨store, 0, 0⟩).1 = .ok ⟨1, 0, 0, 1, 0⟩ := by
    refine ⟨_, rfl, fun store hstore => ?_⟩
    cases hstore
    decide +kernel
  obtain ⟨store, hstore⟩ : ∃ store, Store.empty.add [worn] = .ok store := ⟨_, rfl⟩
  have hnow : Time.epoch.clock + backoffLimit.nanos ≤ Time.latest.clock := by decide
  obtain ⟨hmemory, hserver⟩ := nothing_else_escapes rejecting false hs
  refine ⟨s, store, hs, hstore, ?_, ?_⟩
  · obtain ⟨ds, hdoes, ⟨report, hok, hwhole⟩ | ⟨-, hcut⟩⟩ := hmemory ⟨store, 0, 0⟩ hnow
    · obtain rfl : report = ⟨1, 0, 0, 1, 0⟩ := Except.ok.inj (hok.symm.trans (hreport store hstore))
      exact ⟨ds, hdoes, hok, hwhole⟩
    · exact absurd hcut not_isCut_unheard
  · obtain ⟨ds, -, ⟨x, hx, hwhole⟩ | ⟨-, hcut⟩ | ⟨-, hstrategy, -⟩⟩ :=
      hserver (fun _ _ => .ok ⟨[], 0⟩) .setBased ⟨[], 0, 0⟩
    · exact ⟨ds, x, hx, hwhole⟩
    · exact absurd hcut not_isCut_unheard
    · cases hstrategy

/-- Where warnings are heard the row ends the iteration, and so does the first claim of a batch that is leased row by
row. -/
theorem worn_row_and_vast_batch_escape : ∃ s store,
    Settings.ofEnvironment vast default = .ok s ∧ Store.empty.add [worn] = .ok store ∧
      (rejecting.iteration s true ⟨store, 0, 0⟩).1 = .error (.aborted .counter) ∧
      ((runOnce s (rejecting.wired true (fun _ _ => .ok ⟨[], 0⟩) .perRow)).run ⟨[], 0, 0⟩).1 =
        .error (.aborted .memory) := by
  refine ⟨_, _, rfl, rfl, ?_, ?_⟩
  · decide +kernel
  · decide +kernel

end Surroundings

end Outbox
