import Outbox.Proofs.Worker.Solo

namespace Outbox.Solo

open Worker

variable (u : Surroundings) (s : Settings) (listening : Bool) {rows : List Row} {w w' : Solo}
  {r q : Row} {now expiry : Time}

theorem dispatchAll_run (report : Report) (hw : w.store.Holds rows) (hroom : w.store.HasRoom) :
    ∃ report' w', (dispatchAll s (u.backend listening) rows report).run w = (.ok report', w') ∧
      report'.claimed = report.claimed ∧ w'.store.HasRoom ∧
      w'.store.budget s.retry + rows.length ≤ w.store.budget s.retry := by
  induction rows generalizing w report with
  | nil => exact ⟨report, w, rfl, rfl, hroom, Nat.le_refl _⟩
  | cons r rows ih =>
      have hr := hw.stored r (List.mem_cons_self ..)
      have hlive := hw.live r (List.mem_cons_self ..)
      have hspare := hroom r.id r hr hlive
      obtain ⟨resolution, w₁, q, hrun, hstore, hq⟩ := dispatch_run u s listening hr hlive hspare
      have hroom₁ : w₁.store.HasRoom := hstore ▸ Store.hasRoom_put hroom (hq.spare hlive)
      have hput := Store.budget_put s.retry (hq.id_eq.symm ▸ hr)
      have hless := hq.budget_lt hlive hspare
      obtain ⟨report', w', hrest, hclaimed, hroom', hbudget⟩ :=
        ih (report.count resolution) (hstore ▸ hw.put hq.id_eq) hroom₁
      refine ⟨report', w', ?_, hclaimed.trans (claimed_count ..), hroom', ?_⟩
      · rw [dispatchAll, run_bind_ok hrun, hrest]
      · rw [hstore] at hbudget
        rw [List.length_cons]
        omega

def claimed (w : Solo) (batch : List Row) : Solo :=
  { w with store := ⟨w.store.rows.insertAll batch⟩, readings := w.readings + 1 }

theorem iteration_eq {batch : List Row} (hexpiry : leaseExpiry (u.clock w.readings) s.lease = .ok expiry)
    (hbatch : w.store.batchOf s.batchSize s.workerId expiry (u.clock w.readings) = batch) {report : Report}
    (hrun : (dispatchAll s (u.backend listening) batch (.ofClaimed batch.length)).run (w.claimed batch) =
      (.ok report, w')) :
    u.iteration s listening w = (.ok report, w') := by
  have hclaim := Store.claim_eq w.store s.batchSize s.workerId hexpiry
  rw [hbatch] at hclaim
  have hask : (u.backend listening).claim s.batchSize s.workerId s.lease (u.clock w.readings)
      { w with readings := w.readings + 1 } = (.ok batch, w.claimed batch) := by
    simp only [Surroundings.backend, hclaim]
    rfl
  rw [Surroundings.iteration, runOnce_claimed rfl hask]
  -- a worker that is alone keeps no log
  have hlog : (if batch.isEmpty then w.claimed batch
      else ((u.backend listening).log (claimedEvent s batch.length) (w.claimed batch)).2) = w.claimed batch :=
    ite_self _
  rw [hlog]
  exact run_adapt hrun

theorem hasRoom_claimed (expiry now : Time) (hroom : w.store.HasRoom) :
    (w.claimed (w.store.batchOf s.batchSize s.workerId expiry now)).store.HasRoom := by
  have hc := w.store.claimed_batchOf s.batchSize s.workerId expiry now
  intro id r hr hlive
  rw [claimed, hc.get?, Option.or_eq_some_iff] at hr
  rcases hr with hf | ⟨-, hr⟩
  · obtain ⟨q, hq, -, rfl⟩ := hc.leased r (List.mem_of_find?_eq_some hf)
    exact hroom _ q hq hlive
  · exact hroom id r hr hlive

theorem iteration_run (hexpiry : leaseExpiry (u.clock w.readings) s.lease = .ok expiry) (hroom : w.store.HasRoom) :
    ∃ report w', u.iteration s listening w = (.ok report, w') ∧
      report.claimed = min s.batchSize (w.store.claimable (u.clock w.readings)).length ∧
      w'.store.HasRoom ∧ w'.store.budget s.retry + report.claimed ≤ w.store.budget s.retry := by
  obtain ⟨report, w', hrun, hclaimed, hroom', hbudget⟩ :=
    dispatchAll_run u s listening (.ofClaimed _) (w.store.claimed_batchOf ..).holds (hasRoom_claimed s expiry _ hroom)
  have hsame : _ = w.store.budget s.retry := w.store.budget_claim s.batchSize s.workerId expiry (u.clock w.readings)
  refine ⟨report, w', iteration_eq u s listening hexpiry rfl hrun, ?_, hroom', ?_⟩
  · rw [hclaimed, ← Store.length_batchOf]
    rfl
  · rw [hclaimed]
    exact hsame ▸ hbudget

theorem iteration_idle (hbatch : 1 ≤ s.batchSize) (hexpiry : leaseExpiry (u.clock w.readings) s.lease = .ok expiry)
    (hroom : w.store.HasRoom) {report : Report} (h : u.iteration s listening w = (.ok report, w'))
    (hidle : report.claimed = 0) : w'.store = w.store ∧ w.store.claimable (u.clock w.readings) = [] := by
  obtain ⟨_, _, hrun, hclaimed, -, -⟩ := iteration_run u s listening hexpiry hroom
  cases h.symm.trans hrun
  have hnone : w.store.claimable (u.clock w.readings) = [] := by
    rw [← List.length_eq_zero_iff]
    omega
  have hempty : w.store.batchOf s.batchSize s.workerId expiry (u.clock w.readings) = [] := by
    rw [Store.batchOf, hnone, List.take_nil, List.map_nil]
  have hsame := iteration_eq u s listening hexpiry hempty (w := w) rfl
  cases h.symm.trans hsame
  exact ⟨rfl, hnone⟩

theorem iterations_claim (hlease : ∀ k, ∃ expiry, leaseExpiry (u.clock k) s.lease = .ok expiry) (n : Nat)
    (hroom : w.store.HasRoom) :
    (∀ result ∈ (u.iterations s listening n w).1, ∃ report, result = .ok report) ∧
      (u.iterations s listening n w).2.store.HasRoom ∧
      (u.iterations s listening n w).1.countP Surroundings.IsBusy +
        (u.iterations s listening n w).2.store.budget s.retry ≤ w.store.budget s.retry := by
  induction n generalizing w with
  | zero => exact ⟨by simp [Surroundings.iterations], hroom, by simp [Surroundings.iterations]⟩
  | succ n ih =>
      obtain ⟨expiry, hexpiry⟩ := hlease w.readings
      obtain ⟨report, w₁, hrun, -, hroom₁, hbudget⟩ := iteration_run u s listening hexpiry hroom
      obtain ⟨hok, hroom', hcount⟩ := ih hroom₁
      simp only [Surroundings.iterations, hrun]
      refine ⟨?_, hroom', ?_⟩
      · rintro result (_ | ⟨_, hmem⟩)
        · exact ⟨report, rfl⟩
        · exact hok result hmem
      · rw [List.countP_cons]
        split
        · rename_i hbusy
          have hpos : 0 < report.claimed := by simpa [Surroundings.IsBusy] using hbusy
          omega
        · omega

theorem drains (hlease : ∀ k, ∃ expiry, leaseExpiry (u.clock k) s.lease = .ok expiry) (hroom : w.store.HasRoom) :
    ∃ n w', n ≤ w.store.budget s.retry ∧ u.Drains s listening n w w' := by
  induction hb : w.store.budget s.retry using Nat.strongRecOn generalizing w with
  | ind b ih =>
      obtain ⟨expiry, hexpiry⟩ := hlease w.readings
      obtain ⟨report, w₁, hrun, -, hroom₁, hbudget⟩ := iteration_run u s listening hexpiry hroom
      by_cases hidle : report.claimed = 0
      · exact ⟨0, w₁, Nat.zero_le _, .idle report hrun hidle⟩
      · obtain ⟨n, w', hn, hrest⟩ := ih (w₁.store.budget s.retry) (by omega) hroom₁ rfl
        exact ⟨n + 1, w', by omega, .busy report hrun (by omega) hrest⟩

end Outbox.Solo
