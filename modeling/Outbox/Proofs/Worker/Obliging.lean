import Outbox.Proofs.Store.Order
import Outbox.Proofs.Worker.Iterations

namespace Outbox.Solo

open Worker

variable (u : Surroundings) (s : Settings) (listening : Bool) {rows : List Row} {w w' : Solo} {r : Row}
  {now expiry : Time}

theorem message_of_payload (topic : String) {text : String} (h : Json.trimmed r.payload = .ok text) :
    ∃ m, r.message? topic = .ok m := by
  simp only [Row.message?, Row.envelope?, Envelope.of?, h]
  exact ⟨_, rfl⟩

/-- How many batches of at most `b` rows it takes to claim `n` rows. -/
def batches (n b : Nat) : Nat := (n + b - 1) / b

theorem batches_zero {b : Nat} (hb : 1 ≤ b) : batches 0 b = 0 := Nat.div_eq_of_lt (by omega)

theorem batches_step {n b : Nat} (hb : 1 ≤ b) (hn : 0 < n) : batches n b = batches (n - b) b + 1 := by
  unfold batches
  by_cases hle : b ≤ n
  · rw [← Nat.add_div_right _ hb]
    congr 1
    omega
  · have hnone : (n - b + b - 1) / b = 0 := Nat.div_eq_of_lt (by omega)
    rw [hnone]
    exact Nat.div_eq_of_lt_le (by omega) (by omega)

section Obliging

variable (hclock : ∀ k, u.clock k = now) (haccept : ∀ k m, u.verdict k m = .ok ())

include hclock haccept

theorem dispatch_accepted {m : Message} (hm : r.message? s.topic = .ok m) (hr : w.store.get? r.id = some r)
    (hlive : r.isTerminal = false) :
    ∃ resolution w', (dispatch s r (u.backend listening)).run w = (.ok resolution, w') ∧
      w'.store = w.store.put (r.processed now) := by
  have hpublish : (u.backend listening).publish m w = (.ok (.ok ()), { w with calls := w.calls + 1 }) := by
    simp only [Surroundings.backend, haccept]
  have hnow : (u.backend listening).now { w with calls := w.calls + 1 } =
      (now, { w with calls := w.calls + 1, readings := w.readings + 1 }) := by
    simp only [Surroundings.backend, hclock]
  have hmark : (u.backend listening).markProcessed r.id now
      { w with calls := w.calls + 1, readings := w.readings + 1 } =
      (.ok (), ⟨w.store.put (r.processed now), w.readings + 1, w.calls + 1⟩) := by
    simp only [Surroundings.backend, Store.markProcessed_live hr hlive]
  exact ⟨.published, _, dispatch_published hm hpublish hnow hmark, rfl⟩

theorem dispatchAll_accepted (hrows : ∀ r ∈ rows, ∃ m, r.message? s.topic = .ok m) (report : Report)
    (hw : w.store.Holds rows) :
    ∃ report' w', (dispatchAll s (u.backend listening) rows report).run w = (.ok report', w') ∧
      report'.claimed = report.claimed ∧ w'.store = w.store.processAll rows now := by
  induction rows generalizing w report with
  | nil => exact ⟨report, w, rfl, rfl, rfl⟩
  | cons r rows ih =>
      obtain ⟨m, hm⟩ := hrows r (List.mem_cons_self ..)
      obtain ⟨resolution, w₁, hrun, hstore⟩ := dispatch_accepted u s listening hclock haccept hm
        (hw.stored r (List.mem_cons_self ..)) (hw.live r (List.mem_cons_self ..))
      obtain ⟨report', w', hrest, hclaimed, hprocessed⟩ := ih (fun p hp => hrows p (List.mem_cons_of_mem _ hp))
        (report.count resolution) (hstore ▸ hw.put (r.id_processed now))
      refine ⟨report', w', ?_, hclaimed.trans (claimed_count ..), ?_⟩
      · rw [dispatchAll, run_bind_ok hrun, hrest]
      · rw [hprocessed, hstore, Store.processAll_cons]

theorem iteration_accepted (hexpiry : leaseExpiry now s.lease = .ok expiry)
    (hpayload : ∀ r ∈ w.store.claimable now, ∃ text, Json.trimmed r.payload = .ok text) :
    ∃ report w', u.iteration s listening w = (.ok report, w') ∧
      report.claimed = min s.batchSize (w.store.claimable now).length ∧
      w'.store = w.store.relayed s.batchSize s.workerId expiry now := by
  have hmessage : ∀ r ∈ w.store.batchOf s.batchSize s.workerId expiry now, ∃ m, r.message? s.topic = .ok m := by
    intro r hr
    obtain ⟨q, hq, rfl⟩ := List.mem_map.1 hr
    obtain ⟨text, htext⟩ := hpayload q (List.mem_of_mem_take hq)
    exact message_of_payload s.topic (r := q.leasedTo s.workerId expiry) htext
  obtain ⟨report, w', hrun, hclaimed, hprocessed⟩ := dispatchAll_accepted u s listening hclock haccept hmessage
    (.ofClaimed _) (w := w.claimed _) (w.store.claimed_batchOf ..).holds
  have hexpiry' : leaseExpiry (u.clock w.readings) s.lease = .ok expiry := by rw [hclock, hexpiry]
  refine ⟨report, w', iteration_eq u s listening hexpiry' (by rw [hclock]) hrun, ?_, hprocessed⟩
  rw [hclaimed, ← Store.length_batchOf]
  rfl

theorem iterations_accepted (hbatch : 1 ≤ s.batchSize) (hexpiry : leaseExpiry now s.lease = .ok expiry) (n : Nat)
    (hpayload : ∀ r ∈ w.store.claimable now, ∃ text, Json.trimmed r.payload = .ok text) :
    (u.iterations s listening n w).1.countP Surroundings.IsBusy =
        min n (batches (w.store.claimable now).length s.batchSize) ∧
      (∀ id q, w.store.get? id = some q → q.isTerminal = true →
        (u.iterations s listening n w).2.store.get? id = some q) ∧
      (batches (w.store.claimable now).length s.batchSize ≤ n →
        ∀ r ∈ w.store.claimable now, (u.iterations s listening n w).2.store.get? r.id = some (r.processed now)) := by
  induction n generalizing w with
  | zero =>
      refine ⟨by simp [Surroundings.iterations], fun id q hq _ => hq, fun hnone r hr => ?_⟩
      have hpos := List.length_pos_of_mem hr
      rw [batches_step hbatch hpos] at hnone
      omega
  | succ n ih =>
      obtain ⟨report, w₁, hrun, hclaimed, hstore⟩ :=
        iteration_accepted u s listening hclock haccept hexpiry hpayload
      have hleft := w.store.claimable_relayed s.batchSize s.workerId expiry now
      rw [← hstore] at hleft
      have hget (id : EventId) := w.store.get?_relayed s.batchSize s.workerId expiry now id
      rw [← hstore] at hget
      have hnodup := (w.store.nodup_claimable now).sublist ((List.take_sublist s.batchSize _).map _)
      obtain ⟨hcount, hkept, hrest⟩ := ih fun r hr => hpayload r (List.mem_of_mem_drop (hleft ▸ hr))
      rw [hleft, List.length_drop] at hcount hrest
      simp only [Surroundings.iterations, hrun]
      refine ⟨?_, fun id q hq hend => ?_, fun hall r hr => ?_⟩
      · rw [List.countP_cons, hcount]
        rcases Nat.eq_zero_or_pos (w.store.claimable now).length with hnone | hsome
        · have hidle : Surroundings.IsBusy (.ok report) = false := by simp [Surroundings.IsBusy, hclaimed, hnone]
          rw [hnone, Nat.zero_sub, batches_zero hbatch, hidle]
          simp
        · have hbusy : Surroundings.IsBusy (.ok report) = true := by
            simp only [Surroundings.IsBusy, hclaimed, decide_eq_true_eq]
            omega
          rw [batches_step hbatch hsome, hbusy, if_pos rfl]
          omega
      · refine hkept id q ?_ hend
        rw [hget, Store.find?_id_eq_none.2, Option.map_none, Option.none_or, hq]
        intro p hp he
        obtain ⟨hp', hclaim⟩ := Store.mem_claimable.1 (List.mem_of_mem_take hp)
        rw [he, hq] at hp'
        cases hp'
        cases hend.symm.trans (Row.not_terminal_of_claimable hclaim)
      · rw [batches_step hbatch (List.length_pos_of_mem hr)] at hall
        rw [← List.take_append_drop s.batchSize (w.store.claimable now), List.mem_append] at hr
        rcases hr with htake | hdrop
        · refine hkept r.id _ ?_ rfl
          rw [hget, Store.find?_id_eq_some hnodup htake, Option.map_some, Option.some_or]
        · exact hrest (by omega) r hdrop

end Obliging

end Outbox.Solo
