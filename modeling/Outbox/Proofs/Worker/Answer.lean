import Outbox.Worker.Iteration

namespace Outbox.Worker

variable {ε σ α β : Type}

theorem run_bind_ok {x : ExceptT ε (StateM σ) α} {w w' : σ} {a : α} (h : x.run w = (.ok a, w'))
    (f : α → ExceptT ε (StateM σ) β) : (x >>= f).run w = (f a).run w' := by
  change (ExceptT.bindCont f (x.run w).1).run (x.run w).2 = _
  rw [h]
  rfl

theorem run_bind_error {x : ExceptT ε (StateM σ) α} {w w' : σ} {e : ε} (h : x.run w = (.error e, w'))
    (f : α → ExceptT ε (StateM σ) β) : (x >>= f).run w = (.error e, w') := by
  change (ExceptT.bindCont f (x.run w).1).run (x.run w).2 = _
  rw [h]
  rfl

theorem bind_eq {x : StateM σ α} {w w' : σ} {a : α} (h : x w = (a, w')) (f : α → StateM σ β) :
    (x >>= f) w = f a w' := by
  change f (x w).1 (x w).2 = _
  rw [h]

theorem run_lift (x : StateM σ α) (w : σ) :
    (ExceptT.lift x : ExceptT ε (StateM σ) α).run w = (.ok (x w).1, (x w).2) := rfl

theorem run_liftM {x : StateM σ α} {w w' : σ} {a : α} (h : x w = (a, w')) :
    (liftM x : ExceptT ε (StateM σ) α).run w = (.ok a, w') := by
  change (Except.ok (x w).1, (x w).2) = _
  rw [h]

theorem run_adapt {ε' : Type} {f : ε → ε'} {x : ExceptT ε (StateM σ) α} {w w' : σ} {a : α}
    (h : x.run w = (.ok a, w')) : (x.adapt f).run w = (.ok a, w') := by
  change (fun p : Except ε α × σ => (p.1.mapError f, p.2)) (x.run w) = _
  rw [h]
  rfl

variable {s : Settings} {r : Row} {b : Backend (StateM σ)} {w w₁ w₂ w₃ : σ} {now : Time} {batch : List Row}

theorem resolveDelivered_marked (hnow : b.now w = (now, w₁)) (hmark : b.markProcessed r.id now w₁ = (.ok (), w₂)) :
    resolveDelivered s r b w = (.published, (b.log (publishedEvent s r) w₂).2) := by
  rw [resolveDelivered, bind_eq hnow, bind_eq hmark]
  rfl

theorem dispatch_published {m : Message} (hm : r.message? s.topic = .ok m)
    (hpublish : b.publish m w = (.ok (.ok ()), w₁)) (hnow : b.now w₁ = (now, w₂))
    (hmark : b.markProcessed r.id now w₂ = (.ok (), w₃)) :
    (dispatch s r b).run w = (.ok .published, (b.log (publishedEvent s r) w₃).2) := by
  have hdeliver : (deliver s r b).run w = (.ok (.ok ()), w₁) := by
    simp only [deliver, hm]
    rw [run_bind_ok (x := .mk (b.publish m)) hpublish]
    rfl
  rw [dispatch, run_bind_ok hdeliver, run_lift, resolveDelivered_marked hnow hmark]

theorem claimed_count (report : Report) (resolution : Resolution) :
    (report.count resolution).claimed = report.claimed := by
  cases resolution <;> rfl

theorem runOnce_refused {e : Interruption} (hnow : b.now w = (now, w₁))
    (hclaim : b.claim s.batchSize s.workerId s.lease now w₁ = (.error e, w₂)) :
    (runOnce s b).run w = (.error e, w₂) := by
  have hask : (ExceptT.mk (m := StateM σ) (b.claim s.batchSize s.workerId s.lease now)).run w₁ = (.error e, w₂) :=
    hclaim
  rw [runOnce, run_bind_ok (run_liftM hnow), run_bind_error hask]

theorem runOnce_claimed (hnow : b.now w = (now, w₁))
    (hclaim : b.claim s.batchSize s.workerId s.lease now w₁ = (.ok batch, w₂)) :
    (runOnce s b).run w = ((dispatchAll s b batch (.ofClaimed batch.length)).adapt .aborted).run
      (if batch.isEmpty then w₂ else (b.log (claimedEvent s batch.length) w₂).2) := by
  have hask : (ExceptT.mk (m := StateM σ) (b.claim s.batchSize s.workerId s.lease now)).run w₁ = (.ok batch, w₂) :=
    hclaim
  rw [runOnce, run_bind_ok (run_liftM hnow), run_bind_ok hask]
  cases batch with
  | nil => rfl
  | cons r rows => rfl

end Outbox.Worker
