import Outbox.Proofs.Postgres.Operations

namespace Outbox.Postgres.Sql.Database

variable {e : Engine} {db : Database} {s : Outbox.Store} {now expiry : Time} {worker : String} {take : Nat}

theorem run_ofSession_ok {α : Type} {y : Session α} {a : α} {db' : Database} (h : run e y db = (.ok a, db')) :
    run e (Store.Claim.ofSession y) db = (.ok a, db') := by
  rw [Store.Claim.ofSession, run_adapt, h]
  rfl

theorem storable_leasedTo {r : Row} (hr : Storable r) (hworker : worker.length ≤ 128) (expiry : Time) :
    Storable (r.leasedTo worker expiry) := by
  refine { hr with lockedBy := ?_ }
  rintro _ ⟨⟩
  exact hworker

theorem allStorable_insertAll {rows : List Row} (hs : AllStorable s) (hrows : ∀ r ∈ rows, Storable r) :
    AllStorable ⟨s.rows.insertAll rows⟩ := by
  induction rows generalizing s with
  | nil => exact hs
  | cons r rows ih =>
      exact ih (s := s.put r) (allStorable_put hs (hrows r (List.mem_cons_self ..)))
        fun q hq => hrows q (List.mem_cons_of_mem _ hq)

theorem run_leaseEach (take : Nat) (expiry : Time) {rest l : List Row} (hk : db.Keeps .none s) (hs : AllStorable s)
    (hworker : worker.length ≤ 128) (hnodup : (rest.map (·.id)).Nodup)
    (hrest : ∀ r ∈ rest, s.get? r.id = some r ∧ r.isClaimable now = true) :
    ∃ db', run e (Store.leaseEach take worker expiry now (rest.map fun r => record [.id] (ofRow r)) l) db =
        (.ok (l ++ (rest.take (take - l.length)).map (·.leasedTo worker expiry)), db') ∧
      db'.Keeps .none ⟨s.rows.insertAll ((rest.take (take - l.length)).map (·.leasedTo worker expiry))⟩ := by
  induction rest generalizing s db l with
  | nil =>
      refine ⟨db, ?_, ?_⟩
      · simp [Store.leaseEach, run_pure]
      · simpa [Table.insertAll] using hk
  | cons r rest ih =>
      obtain ⟨hr, hclaim⟩ := hrest r (List.mem_cons_self ..)
      obtain ⟨hrid, hnodup⟩ := List.nodup_cons.1 hnodup
      by_cases hfull : take ≤ l.length
      · have hnone : take - l.length = 0 := by omega
        refine ⟨db, ?_, ?_⟩
        · rw [List.map_cons, Store.leaseEach, if_pos hfull, hnone]
          simp [run_pure]
        · simpa [hnone, Table.insertAll] using hk
      · have hq := storable_leasedTo (hs.storable hr) hworker expiry
        have hput := allStorable_put hs hq
        obtain ⟨result, db₁, hsend, hrecords, hk₁⟩ := hk.send (e := e) none_ne_failed
          (serves_lease worker expiry hr hclaim hput) "lease_row"
        have hrest' : ∀ q ∈ rest, (s.put (r.leasedTo worker expiry)).get? q.id = some q ∧ q.isClaimable now = true := by
          intro q hq
          obtain ⟨hget, hclaim⟩ := hrest q (List.mem_cons_of_mem _ hq)
          have hne : r.id ≠ q.id := fun he => hrid (List.mem_map.2 ⟨q, hq, he.symm⟩)
          rw [Outbox.Store.get?_put]
          exact ⟨(if_neg hne).trans hget, hclaim⟩
        obtain ⟨db₂, hrun, hk₂⟩ := ih (l := l ++ [r.leasedTo worker expiry]) hk₁ hput hnodup hrest'
        have hstep : take - l.length = (take - (l ++ [r.leasedTo worker expiry]).length) + 1 := by
          rw [List.length_append, List.length_singleton]
          omega
        have hid : run e (Session.ofExcept (readColumn "id" ((record [.id] (ofRow r)).id.read "id"))) db =
            (.ok r.id.uuid, db) := rfl
        rw [hstep, List.take_succ_cons, List.map_cons]
        refine ⟨db₂, ?_, hk₂⟩
        rw [List.map_cons, Store.leaseEach, if_neg hfull, run_bind_ok hid, run_bind_ok hsend, hrecords]
        simp only [List.head?_cons]
        rw [run_bind_ok (run_toRow _ db₁), hrun, List.append_assoc]
        rfl

theorem run_claimTogether (hk : db.Keeps .none s) (hsize : s.rows.size ≤ largestBigint)
    (hs' : AllStorable ⟨s.rows.insertAll (s.batchOf take worker expiry now)⟩) :
    ∃ db' batch, run e (Store.claimTogether take worker expiry now) db = (.ok batch, db') ∧
      batch.Perm (s.batchOf take worker expiry now) ∧
      db'.Keeps .none ⟨s.rows.insertAll (s.batchOf take worker expiry now)⟩ := by
  obtain ⟨result, db', hsend, ⟨batch, hperm, hrecords⟩, hk'⟩ :=
    hk.send (e := e) none_ne_failed (serves_leaseBatch hsize hs') "claim_set_based"
  refine ⟨db', batch, ?_, hperm, hk'⟩
  rw [Store.claimTogether, run_bind_ok hsend, hrecords, run_ofExcept, mapM_toRow]

theorem run_claimEach (hk : db.Keeps .none s) (hs : AllStorable s) (hworker : worker.length ≤ 128)
    (hsize : s.rows.size ≤ largestBigint) (hmemory : take * Store.rowBytes ≤ Store.memoryLimit) :
    ∃ db', run e (Store.claimEach take worker expiry now) db = (.ok (s.batchOf take worker expiry now), db') ∧
      db'.Keeps .none ⟨s.rows.insertAll (s.batchOf take worker expiry now)⟩ := by
  obtain ⟨result, db₁, hsend, hrecords, hk₁⟩ := hk.send (e := e) none_ne_failed
    (serves_selectCandidates hsize now (Store.candidateLimit take)) "select_claim_candidates"
  have hcandidates : ((s.claimable now).take (Store.candidateLimit take)).Sublist (s.claimable now) :=
    List.take_sublist ..
  have hnodup := (s.nodup_claimable now).sublist (hcandidates.map _)
  obtain ⟨db₂, hrun, hk₂⟩ := run_leaseEach (e := e) take expiry (l := []) hk₁ hs hworker hnodup
    fun r hr => Outbox.Store.mem_claimable.1 (hcandidates.subset hr)
  have henough : take ≤ Store.candidateLimit take := by
    simp only [Store.candidateLimit, Store.overfetch, Store.largestWord, Store.rowBytes, Store.memoryLimit] at hmemory ⊢
    omega
  have hfirst : ((s.claimable now).take (Store.candidateLimit take)).take take = (s.claimable now).take take := by
    rw [List.take_take, Nat.min_eq_left henough]
  rw [List.length_nil, Nat.sub_zero, hfirst, List.nil_append] at hrun
  rw [List.length_nil, Nat.sub_zero, hfirst] at hk₂
  refine ⟨db₂, ?_, hk₂⟩
  rw [Store.claimEach, run_bind_ok (run_ofSession_ok hsend), if_neg (Nat.not_lt.2 hmemory), hrecords]
  exact run_ofSession_ok hrun

theorem batchOf_sorted (s : Outbox.Store) (take : Nat) (worker : String) (expiry now : Time) :
    (s.batchOf take worker expiry now).Pairwise (Row.precedes · ·) := by
  have hsorted : (s.claimable now).Pairwise (Row.precedes · ·) := (isOrder_precedes fun _ => true).pairwise _
  exact List.pairwise_map.2 (hsorted.sublist (List.take_sublist ..))

theorem sort_batchOf {batch : List Row} (h : batch.Perm (s.batchOf take worker expiry now)) :
    batch.mergeSort Row.precedes = s.batchOf take worker expiry now := by
  have hsort := (isOrder_precedes fun _ => true).mergeSort_eq h (s.nodup_batchOf take worker expiry now)
  rwa [List.filter_true, List.filter_true, List.mergeSort_of_pairwise (batchOf_sorted ..)] at hsort

theorem run_claimBy (strategy : ClaimStrategy) (hk : db.Keeps .none s) (hs : AllStorable s)
    (hworker : worker.length ≤ 128) (hsize : s.rows.size ≤ largestBigint)
    (hmemory : strategy = .perRow → take * Store.rowBytes ≤ Store.memoryLimit) {lease : Duration}
    (hlease : leaseExpiry now lease = .ok expiry) :
    ∃ db', run e (Store.claimBy strategy take worker lease now) db = (.ok (s.batchOf take worker expiry now), db') ∧
      db'.Keeps .none ⟨s.rows.insertAll (s.batchOf take worker expiry now)⟩ := by
  have hexpiry : run e (Store.Claim.ofSession (Session.ofExcept (leaseExpiry now lease))) db = (.ok expiry, db) :=
    run_ofSession_ok (by rw [run_ofExcept, hlease])
  have hs' : AllStorable ⟨s.rows.insertAll (s.batchOf take worker expiry now)⟩ := by
    refine allStorable_insertAll hs fun r hr => ?_
    obtain ⟨q, hq, rfl⟩ := List.mem_map.1 hr
    exact storable_leasedTo (hs.storable (Outbox.Store.mem_claimable.1 (List.mem_of_mem_take hq)).1) hworker expiry
  rw [Store.claimBy, run_bind_ok hexpiry]
  by_cases hzero : take = 0
  · subst hzero
    exact ⟨db, rfl, hk⟩
  · rw [if_neg hzero]
    cases strategy with
    | perRow =>
        obtain ⟨db', hrun, hk'⟩ := run_claimEach (e := e) hk hs hworker hsize (hmemory rfl)
        refine ⟨db', (run_bind_ok hrun).trans ?_, hk'⟩
        rw [run_pure, sort_batchOf (.refl _)]
    | setBased =>
        obtain ⟨db', batch, hrun, hperm, hk'⟩ := run_claimTogether (e := e) hk hsize hs'
        refine ⟨db', (run_bind_ok (run_ofSession_ok hrun)).trans ?_, hk'⟩
        rw [run_pure, sort_batchOf hperm]

theorem run_claim (strategy : ClaimStrategy) (hk : db.Keeps .none s) (hs : AllStorable s)
    (hworker : worker.length ≤ 128) (hsize : s.rows.size ≤ largestBigint)
    (hmemory : strategy = .perRow → take * Store.rowBytes ≤ Store.memoryLimit) (lease : Duration) :
    ∃ db', run e (Store.claim strategy take worker lease now) db =
        (((s.claim take worker lease now).map (·.1)).mapError .refused, db') ∧
      db'.Keeps .none (s.answer (.claim take worker lease now)).2 := by
  obtain ⟨handler, hrun, hrefused⟩ : ∃ handler : Interruption → Store.Claim (List Row),
      run e (Store.claim strategy take worker lease now) db =
        run e (tryCatch (Store.claimBy strategy take worker lease now) handler) db ∧
      ∀ refusal db, run e (handler (.refused refusal)) db = (.error (.refused refusal), db) :=
    ⟨_, hold_within e _ _ db, fun _ _ => rfl⟩
  rw [hrun]
  cases hlease : leaseExpiry now lease with
  | error refusal =>
      have hclaim : s.claim take worker lease now = .error refusal := by rw [Outbox.Store.claim, hlease]; rfl
      have hby : run e (Store.claimBy strategy take worker lease now) db = (.error (.refused refusal), db) := by
        have hexpiry : run e (Store.Claim.ofSession (Session.ofExcept (leaseExpiry now lease))) db =
            (.error (.refused refusal), db) := by
          rw [hlease]
          rfl
        rw [Store.claimBy, run_bind_error hexpiry]
      simp only [Outbox.Store.answer, hclaim, Outbox.Store.reply]
      exact ⟨db, (run_tryCatch_error hby).trans (hrefused refusal db), hk⟩
  | ok expiry =>
      obtain ⟨db', hby, hk'⟩ := run_claimBy (e := e) strategy hk hs hworker hsize hmemory hlease
      simp only [Outbox.Store.answer, Outbox.Store.claim_eq s take worker hlease, Outbox.Store.reply]
      exact ⟨db', run_tryCatch_ok hby, hk'⟩

end Outbox.Postgres.Sql.Database
