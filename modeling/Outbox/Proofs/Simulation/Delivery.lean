import Outbox.Proofs.Worker.Obliging
import Outbox.Simulation.Command

namespace Outbox.Simulation.World

open Worker

/-- The publisher accepts everything, and nothing is planned for its calls. -/
structure IsWilling (w : World) : Prop where
  interludes : w.interludes = []
  failNext : w.publisher.failNext = 0
  failingKeys : w.publisher.failingKeys = []

structure Sends (w : World) (ms : List Message) (w' : World) : Prop where
  willing : w'.IsWilling
  now : w'.now = w.now
  accounts : w'.accounts = w.accounts
  services : w'.services = w.services
  accepted : w'.publisher.accepted = w.publisher.accepted ++ ms

variable {w w' w'' : World} {ms ms' : List Message} {r : Row} {rows : List Row} {m : Message} {expiry : Time}

theorem Sends.trans (h : w.Sends ms w') (h' : w'.Sends ms' w'') : w.Sends (ms ++ ms') w'' where
  willing := h'.willing
  now := h'.now.trans h.now
  accounts := h'.accounts.trans h.accounts
  services := h'.services.trans h.services
  accepted := by rw [h'.accepted, h.accepted, List.append_assoc]

theorem IsWilling.congr (hw : w.IsWilling) (hinterludes : w'.interludes = w.interludes)
    (hpublisher : w'.publisher = w.publisher) : w'.IsWilling where
  interludes := hinterludes.trans hw.interludes
  failNext := hpublisher ▸ hw.failNext
  failingKeys := hpublisher ▸ hw.failingKeys

theorem IsWilling.sends (hw : w.IsWilling) (store : Store) (log : List LogEvent) :
    w.Sends [] { w with store, log } :=
  ⟨hw.congr rfl rfl, rfl, rfl, rfl, (List.append_nil _).symm⟩

theorem publish_willing (hw : w.IsWilling) (m : Message) :
    ∃ publisher, publish m w = (.ok (.ok ()), { w with publisher }) ∧ w.Sends [m] { w with publisher } := by
  obtain ⟨now, store, accounts, ⟨accepted, attempts, failNext, failingKeys⟩, services, units, interludes, log⟩ := w
  obtain ⟨rfl, rfl, rfl⟩ := hw
  exact ⟨_, rfl, ⟨rfl, rfl, rfl⟩, rfl, rfl, rfl, rfl⟩

variable (s : Settings) (listening : Bool)

theorem log_eq (e : LogEvent) (w : World) : ∃ log, ((backend listening).log e w).2 = { w with log } := by
  cases listening with
  | true => exact ⟨_, rfl⟩
  | false => exact ⟨_, rfl⟩

theorem dispatch_willing (hw : w.IsWilling) (hm : r.message? s.topic = .ok m) (hr : w.store.get? r.id = some r)
    (hlive : r.isTerminal = false) :
    ∃ w', (dispatch s r (backend listening)).run w = (.ok .published, w') ∧ w.Sends [m] w' ∧
      w'.store = w.store.put (r.processed w.now) := by
  obtain ⟨publisher, hpublish, hsends⟩ := publish_willing hw m
  have hmark : (backend listening).markProcessed r.id w.now { w with publisher } =
      (.ok (), { w with publisher, store := w.store.put (r.processed w.now) }) := by
    simp only [backend, Store.markProcessed_live hr hlive]
  obtain ⟨log, hlog⟩ := log_eq listening (publishedEvent s r)
    { w with publisher, store := w.store.put (r.processed w.now) }
  have hrun := dispatch_published (b := backend listening) hm hpublish rfl hmark
  rw [hlog] at hrun
  exact ⟨_, hrun, hsends.trans (hsends.willing.sends (w.store.put (r.processed w.now)) log), rfl⟩

theorem dispatchAll_willing (hw : w.IsWilling) (hrows : ∀ r ∈ rows, ∃ m, r.message? s.topic = .ok m)
    (hheld : w.store.Holds rows) (report : Report) :
    ∃ report' w' ms, (dispatchAll s (backend listening) rows report).run w = (.ok report', w') ∧
      report'.claimed = report.claimed ∧ List.Forall₂ (fun r m => r.message? s.topic = .ok m) rows ms ∧
      w.Sends ms w' ∧ w'.store = w.store.processAll rows w.now := by
  induction rows generalizing w report with
  | nil => exact ⟨report, w, [], rfl, rfl, .nil, hw.sends w.store w.log, rfl⟩
  | cons r rows ih =>
      obtain ⟨⟨m, hm⟩, hrows⟩ := List.forall_mem_cons.1 hrows
      obtain ⟨w₁, hrun, hsends, hstore⟩ := dispatch_willing s listening hw hm (hheld.stored r (List.mem_cons_self ..))
        (hheld.live r (List.mem_cons_self ..))
      obtain ⟨report', w', ms, hrest, hclaimed, hms, hsends', hprocessed⟩ :=
        ih hsends.willing hrows (hstore ▸ hheld.put (r.id_processed w.now)) (report.count .published)
      refine ⟨report', w', m :: ms, ?_, hclaimed.trans (claimed_count ..), .cons hm hms, hsends.trans hsends', ?_⟩
      · rw [dispatchAll, run_bind_ok hrun, hrest]
      · rw [hprocessed, hsends.now, hstore, Store.processAll_cons]

theorem runOnce_invalid {e : StoreError} (h : leaseExpiry w.now s.lease = .error e) :
    (runOnce s (backend listening)).run w = (.error (.refused e), w) := by
  have hclaim : w.store.claim s.batchSize s.workerId s.lease w.now = .error e := by
    rw [Store.claim, h]
    rfl
  have hask : (backend listening).claim s.batchSize s.workerId s.lease w.now w = (.error (.refused e), w) := by
    simp only [backend, hclaim]
  exact runOnce_refused rfl hask

theorem runOnce_valid {batch : List Row} (hexpiry : leaseExpiry w.now s.lease = .ok expiry)
    (hbatch : w.store.batchOf s.batchSize s.workerId expiry w.now = batch) :
    ∃ log, (runOnce s (backend listening)).run w =
      ((dispatchAll s (backend listening) batch (.ofClaimed batch.length)).adapt .aborted).run
        { w with store := ⟨w.store.rows.insertAll batch⟩, log } := by
  have hclaim := Store.claim_eq w.store s.batchSize s.workerId hexpiry
  rw [hbatch] at hclaim
  have hask : (backend listening).claim s.batchSize s.workerId s.lease w.now w =
      (.ok batch, { w with store := ⟨w.store.rows.insertAll batch⟩ }) := by
    simp only [backend, hclaim]
  rw [runOnce_claimed rfl hask]
  split
  · exact ⟨w.log, rfl⟩
  · obtain ⟨log, hlog⟩ := log_eq listening (claimedEvent s batch.length)
      { w with store := ⟨w.store.rows.insertAll batch⟩ }
    exact ⟨log, by rw [hlog]⟩

theorem runOnce_willing (hw : w.IsWilling) (hexpiry : leaseExpiry w.now s.lease = .ok expiry)
    (hrows : ∀ r ∈ w.store.claimable w.now, ∃ m, r.message? s.topic = .ok m) :
    ∃ report w' ms, (runOnce s (backend listening)).run w = (.ok report, w') ∧
      report.claimed = min s.batchSize (w.store.claimable w.now).length ∧
      List.Forall₂ (fun r m => r.message? s.topic = .ok m) ((w.store.claimable w.now).take s.batchSize) ms ∧
      w.Sends ms w' ∧ w'.store = w.store.relayed s.batchSize s.workerId expiry w.now := by
  obtain ⟨log, hrun⟩ := runOnce_valid s listening hexpiry rfl
  have hmessage : ∀ r ∈ w.store.batchOf s.batchSize s.workerId expiry w.now, ∃ m, r.message? s.topic = .ok m := by
    intro r hr
    obtain ⟨q, hq, rfl⟩ := List.mem_map.1 hr
    exact hrows q (List.mem_of_mem_take hq)
  have hclaim := hw.sends ⟨w.store.rows.insertAll (w.store.batchOf s.batchSize s.workerId expiry w.now)⟩ log
  obtain ⟨report, w', ms, hdispatch, hclaimed, hms, hsends, hstore⟩ :=
    dispatchAll_willing s listening hclaim.willing hmessage (w.store.claimed_batchOf ..).holds (.ofClaimed _)
  refine ⟨report, w', ms, hrun.trans (run_adapt hdispatch), ?_, List.forall₂_map_left_iff.1 hms, hclaim.trans hsends,
    hstore⟩
  rw [hclaimed, ← Store.length_batchOf]
  rfl

end Outbox.Simulation.World
