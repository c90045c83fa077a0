import Outbox.Proofs.Worker.Obliging

namespace Outbox.Solo

variable (u : Surroundings) (s : Settings) (listening : Bool) (w : Solo)

/-- A worker alone with its store runs out of work. What the store has left to do bounds the iterations that
find a row to claim, whatever the clock and the publisher say; one that finds none leaves only rows that are
leased or wait; and where everything is accepted the rows leave in full batches, save the last. -/
theorem draining_ends (hbatch : 1 ≤ s.batchSize)
    (hlease : ∀ k, ∃ expiry, leaseExpiry (u.clock k) s.lease = .ok expiry)
    (hroom : ∀ id r, w.store.get? id = some r → r.isTerminal = false → r.attempts ≠ 0xFFFFFFFF) :
    (∀ n, (∀ result ∈ (u.iterations s listening n w).1, ∃ report, result = .ok report) ∧
      (u.iterations s listening n w).1.countP Surroundings.IsBusy ≤ w.store.budget s.retry) ∧
    (∃ n w', n ≤ w.store.budget s.retry ∧ u.Drains s listening n w w') ∧
    (∀ n w₁ w' report, (u.iterations s listening n w).2 = w₁ → u.iteration s listening w₁ = (.ok report, w') →
      report.claimed = 0 → w'.store = w₁.store ∧
        ∀ id r, w₁.store.get? id = some r → r.isTerminal = false →
          (∃ t, r.lockedUntil = some t ∧ u.clock w₁.readings ≤ t) ∨
            ∃ t, r.nextAttemptAt = some t ∧ u.clock w₁.readings < t) ∧
    (∀ now, (∀ k, u.clock k = now) → (∀ k m, u.verdict k m = .ok ()) →
      (∀ r ∈ w.store.claimable now, ∃ text, Json.trimmed r.payload = .ok text) →
      ∀ n, (u.iterations s listening n w).1.countP Surroundings.IsBusy =
          min n (batches (w.store.claimable now).length s.batchSize) ∧
        (batches (w.store.claimable now).length s.batchSize ≤ n → ∀ r ∈ w.store.claimable now,
          (u.iterations s listening n w).2.store.get? r.id = some (r.processed now))) := by
  have hspare : w.store.HasRoom := by
    intro id r hr hlive
    have hword := r.attempts.toNat_lt
    have hne : r.attempts.toNat ≠ 0xFFFFFFFF := fun he => hroom id r hr hlive (UInt32.toNat_inj.1 he)
    omega
  refine ⟨fun n => ?_, drains u s listening hlease hspare, ?_, ?_⟩
  · obtain ⟨hok, -, hcount⟩ := iterations_claim u s listening hlease n hspare
    exact ⟨hok, by omega⟩
  · rintro n w₁ w' report rfl hrun hidle
    obtain ⟨-, hroom₁, -⟩ := iterations_claim u s listening hlease n hspare
    obtain ⟨expiry, hexpiry⟩ := hlease (u.iterations s listening n w).2.readings
    obtain ⟨hsame, hnone⟩ := iteration_idle u s listening hbatch hexpiry hroom₁ hrun hidle
    refine ⟨hsame, fun id r hr hlive => Row.leased_or_waiting hlive ?_⟩
    rw [← Bool.not_eq_true]
    intro hclaim
    have hmem := Store.mem_claimable.2 ⟨Store.id_of_get? hr ▸ hr, hclaim⟩
    rw [hnone] at hmem
    cases hmem
  · intro now hclock haccept hpayload n
    obtain ⟨expiry, hexpiry⟩ := hlease 0
    rw [hclock] at hexpiry
    obtain ⟨hcount, -, hdone⟩ := iterations_accepted u s listening hclock haccept hbatch hexpiry n hpayload
    exact ⟨hcount, hdone⟩

theorem draining_ends_two :
    let u : Surroundings := ⟨fun _ => .epoch, fun _ _ => .ok ()⟩
    let s : Settings := { Settings.standard "worker" with batchSize := 1, retry := ⟨3, .zero, .zero⟩ }
    let w : Solo := ⟨(Store.empty.put (Row.sample 7)).put (Row.sample 8), 0, 0⟩
    1 ≤ s.batchSize ∧ (∀ k, ∃ expiry, leaseExpiry (u.clock k) s.lease = .ok expiry) ∧
      (∀ id r, w.store.get? id = some r → r.isTerminal = false → r.attempts ≠ 0xFFFFFFFF) ∧
      w.store.budget s.retry = 6 ∧ (∃ n w', n ≤ 6 ∧ u.Drains s true n w w') ∧
      w.store.claimable .epoch = [Row.sample 7, Row.sample 8] ∧
      (u.iterations s true 5 w).1.countP Surroundings.IsBusy = 2 ∧
      ∀ r ∈ w.store.claimable .epoch, (u.iterations s true 5 w).2.store.get? r.id = some (r.processed .epoch) := by
  intro u s w
  have hexpiry : leaseExpiry .epoch s.lease = .ok (Time.epoch.later 30) := by decide +kernel
  have hlease : ∀ k, ∃ expiry, leaseExpiry (u.clock k) s.lease = .ok expiry := fun _ => ⟨_, hexpiry⟩
  have hroom : ∀ id r, w.store.get? id = some r → r.isTerminal = false → r.attempts ≠ 0xFFFFFFFF := by
    have hall : ∀ r ∈ w.store.rows.entries, r.attempts ≠ 0xFFFFFFFF := by decide +kernel
    exact fun id r hr _ => hall r (Store.mem_of_get? hr)
  have hbudget : w.store.budget s.retry = 6 := by decide +kernel
  have hrows : w.store.claimable .epoch = [Row.sample 7, Row.sample 8] :=
    Store.claimable_of_filter (by decide +kernel) (by decide +kernel)
  have hpayload : ∀ r ∈ w.store.claimable .epoch, ∃ text, Json.trimmed r.payload = .ok text := by
    have hblank : Json.trimmed (Row.sample 7).payload = .ok "\x7b\x7d" := by decide +kernel
    rw [hrows]
    intro r hr
    refine ⟨_, Eq.trans (congrArg _ ?_) hblank⟩
    rcases List.mem_pair.1 hr with rfl | rfl <;> rfl
  obtain ⟨-, hdrains, -, haccepted⟩ := draining_ends u s true w (by decide) hlease hroom
  obtain ⟨hcount, hdone⟩ := haccepted .epoch (fun _ => rfl) (fun _ _ => rfl) hpayload 5
  rw [hbudget] at hdrains
  have hbatches : batches (w.store.claimable .epoch).length s.batchSize = 2 := by
    rw [hrows]
    decide
  rw [hbatches] at hcount hdone
  exact ⟨by decide, hlease, hroom, hbudget, hdrains, hrows, hcount, hdone (by decide)⟩

end Outbox.Solo
