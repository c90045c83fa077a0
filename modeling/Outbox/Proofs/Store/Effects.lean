import Outbox.Proofs.Row
import Outbox.Proofs.Store.Lookup

namespace Outbox.Store

variable {s s' : Store} {r : Row} {rows batch : List Row} {id : EventId} {now : Time}

theorem clash?_eq_none {seen : List Row} (h : s.clash? seen rows = none) :
    (rows.map (·.id)).Nodup ∧ ∀ r ∈ rows, s.get? r.id = none ∧ ∀ q ∈ seen, q.id ≠ r.id := by
  induction rows generalizing seen with
  | nil => simp
  | cons r rows ih =>
      simp only [clash?] at h
      split at h
      · cases h
      · rename_i hr
        rw [not_or, Option.not_isSome_iff_eq_none, List.any_eq_true] at hr
        obtain ⟨hnodup, hrows⟩ := ih h
        refine ⟨List.nodup_cons.2 ⟨?_, hnodup⟩, ?_⟩
        · rintro hmem
          obtain ⟨q, hq, he⟩ := List.mem_map.1 hmem
          exact (hrows q hq).2 r (List.mem_cons_self ..) he.symm
        · intro q hq
          rcases List.mem_cons.1 hq with rfl | hq
          · exact ⟨hr.1, fun p hp he => hr.2 ⟨p, hp, by simpa using he⟩⟩
          · exact ⟨(hrows q hq).1, fun p hp => (hrows q hq).2 p (List.mem_cons_of_mem _ hp)⟩

theorem add_eq_ok (h : s.add rows = .ok s') :
    (rows.map (·.id)).Nodup ∧ (∀ r ∈ rows, s.get? r.id = none) ∧
      ∀ id, s'.get? id = (rows.find? (·.id = id)).or (s.get? id) := by
  unfold add at h
  split at h
  · cases h
  · rename_i hc
    cases h
    obtain ⟨hnodup, hrows⟩ := clash?_eq_none hc
    exact ⟨hnodup, fun r hr => (hrows r hr).1, get?_insertAll hnodup s⟩

theorem mem_of_add (h : s.add rows = .ok s') : r ∈ s'.rows.entries ↔ r ∈ rows ∨ r ∈ s.rows.entries := by
  obtain ⟨hnodup, hfresh, hget⟩ := add_eq_ok h
  rw [mem_iff_get?, hget, mem_iff_get?]
  constructor
  · intro hr
    rcases Option.or_eq_some_iff.1 hr with hf | ⟨-, hs⟩
    · exact .inl (List.mem_of_find?_eq_some hf)
    · exact .inr hs
  · rintro (hr | hs)
    · rw [find?_id_eq_some hnodup hr, Option.some_or]
    · have hnone : rows.find? (·.id = r.id) = none := by
        rw [find?_id_eq_none]
        intro q hq hid
        have hnone := hfresh q hq
        rw [hid, hs] at hnone
        cases hnone
      rw [hnone, Option.none_or, hs]

theorem mem_claimable : r ∈ s.claimable now ↔ s.get? r.id = some r ∧ r.isClaimable now = true := by
  rw [claimable, List.mem_mergeSort, List.mem_filter, mem_iff_get?]

theorem nodup_claimable (s : Store) (now : Time) : ((s.claimable now).map (·.id)).Nodup := by
  have hperm := (List.mergeSort_perm (s.rows.entries.filter (·.isClaimable now)) Row.precedes).map (·.id)
  exact hperm.nodup_iff.2 (s.nodup_ids.sublist (List.filter_sublist.map _))

def batchOf (s : Store) (take : Nat) (worker : String) (expiry now : Time) : List Row :=
  ((s.claimable now).take take).map (·.leasedTo worker expiry)

theorem length_batchOf (s : Store) (take : Nat) (worker : String) (expiry now : Time) :
    (s.batchOf take worker expiry now).length = min take (s.claimable now).length := by
  rw [batchOf, List.length_map, List.length_take]

theorem nodup_batchOf (s : Store) (take : Nat) (worker : String) (expiry now : Time) :
    ((s.batchOf take worker expiry now).map (·.id)).Nodup := by
  have hids : (s.batchOf take worker expiry now).map (·.id) = ((s.claimable now).take take).map (·.id) := by
    rw [batchOf, List.map_map]
    rfl
  rw [hids]
  exact (s.nodup_claimable now).sublist ((List.take_sublist ..).map _)

structure Claimed (s : Store) (worker : String) (now expiry : Time) (batch : List Row) (s' : Store) : Prop where
  nodup : (batch.map (·.id)).Nodup
  leased : ∀ r ∈ batch, ∃ q, s.get? r.id = some q ∧ q.isClaimable now = true ∧ r = q.leasedTo worker expiry
  get? : ∀ id, s'.get? id = (batch.find? (·.id = id)).or (s.get? id)

theorem claimed_batchOf (s : Store) (take : Nat) (worker : String) (expiry now : Time) :
    Claimed s worker now expiry (s.batchOf take worker expiry now)
      ⟨s.rows.insertAll (s.batchOf take worker expiry now)⟩ where
  nodup := s.nodup_batchOf take worker expiry now
  leased r hr := by
    obtain ⟨q, hq, rfl⟩ := List.mem_map.1 hr
    obtain ⟨hget, hclaim⟩ := mem_claimable.1 (List.mem_of_mem_take hq)
    exact ⟨q, hget, hclaim, rfl⟩
  get? := get?_insertAll (s.nodup_batchOf take worker expiry now) s

theorem claim_eq {lease : Duration} {expiry : Time} (s : Store) (take : Nat) (worker : String)
    (h : leaseExpiry now lease = .ok expiry) :
    s.claim take worker lease now =
      .ok (s.batchOf take worker expiry now, ⟨s.rows.insertAll (s.batchOf take worker expiry now)⟩) := by
  rw [claim, h]
  rfl

theorem claim_eq_ok {take : Nat} {worker : String} {lease : Duration}
    (h : s.claim take worker lease now = .ok (batch, s')) :
    ∃ expiry, leaseExpiry now lease = .ok expiry ∧ Claimed s worker now expiry batch s' := by
  cases he : leaseExpiry now lease with
  | error e =>
      rw [claim, he] at h
      cases h
  | ok expiry =>
      rw [claim_eq s take worker he] at h
      cases h
      exact ⟨expiry, rfl, s.claimed_batchOf take worker expiry now⟩

theorem Claimed.get?_of_mem {worker : String} {expiry : Time} (hc : Claimed s worker now expiry batch s')
    (hr : r ∈ batch) : s'.get? r.id = some r := by
  rw [hc.get?, find?_id_eq_some hc.nodup hr, Option.some_or]

/-- Rows that are in the store as they are in hand, and live. -/
structure Holds (s : Store) (rows : List Row) : Prop where
  nodup : (rows.map (·.id)).Nodup
  stored : ∀ r ∈ rows, s.get? r.id = some r
  live : ∀ r ∈ rows, r.isTerminal = false

theorem Holds.put {q : Row} (h : s.Holds (r :: rows)) (hq : q.id = r.id) : (s.put q).Holds rows := by
  obtain ⟨hr, hnodup⟩ := List.nodup_cons.1 h.nodup
  refine ⟨hnodup, fun p hp => ?_, fun p hp => h.live p (List.mem_cons_of_mem _ hp)⟩
  have hne : q.id ≠ p.id := fun he => hr (List.mem_map.2 ⟨p, hp, (hq.symm.trans he).symm⟩)
  rw [get?_put, if_neg hne, h.stored p (List.mem_cons_of_mem _ hp)]

theorem Claimed.holds {worker : String} {expiry : Time} (hc : Claimed s worker now expiry batch s') :
    s'.Holds batch := by
  refine ⟨hc.nodup, fun r hr => hc.get?_of_mem hr, fun r hr => ?_⟩
  obtain ⟨q, -, hclaim, rfl⟩ := hc.leased r hr
  rw [Row.isTerminal_leasedTo]
  exact Row.not_terminal_of_claimable hclaim

def processAll (s : Store) (rows : List Row) (now : Time) : Store := ⟨s.rows.insertAll (rows.map (·.processed now))⟩

theorem processAll_cons (s : Store) (r : Row) (rows : List Row) (now : Time) :
    s.processAll (r :: rows) now = (s.put (r.processed now)).processAll rows now := rfl

def relayed (s : Store) (take : Nat) (worker : String) (expiry now : Time) : Store :=
  (⟨s.rows.insertAll (s.batchOf take worker expiry now)⟩ : Store).processAll (s.batchOf take worker expiry now) now

theorem get?_relayed (s : Store) (take : Nat) (worker : String) (expiry now : Time) (id : EventId) :
    (s.relayed take worker expiry now).get? id =
      ((((s.claimable now).take take).find? (·.id = id)).map (·.processed now)).or (s.get? id) := by
  have hbatch := s.claimed_batchOf take worker expiry now
  have hids : ((s.batchOf take worker expiry now).map (·.processed now)).map (·.id) =
      (s.batchOf take worker expiry now).map (·.id) := by
    rw [List.map_map]
    rfl
  have hsame : (s.batchOf take worker expiry now).map (·.processed now) =
      ((s.claimable now).take take).map (·.processed now) := by
    rw [batchOf, List.map_map]
    rfl
  rw [relayed, processAll, get?_insertAll (hids ▸ hbatch.nodup), hbatch.get?, hsame, List.find?_map]
  cases hfind : ((s.claimable now).take take).find? (·.id = id) with
  | some r =>
      have hfound : ((s.claimable now).take take).find? ((·.id = id) ∘ (·.processed now)) = some r := hfind
      rw [hfound]
      rfl
  | none =>
      have hnone : ((s.claimable now).take take).find? ((·.id = id) ∘ (·.processed now)) = none := hfind
      have hnone' : (s.batchOf take worker expiry now).find? (·.id = id) = none := by
        rw [batchOf, List.find?_map]
        exact congrArg (Option.map _) hfind
      rw [hnone, hnone']
      rfl

theorem markProcessed_eq_ok (h : s.markProcessed id now = .ok s') :
    ∃ r, s.get? id = some r ∧ s' = if r.isTerminal then s else s.put (r.processed now) := by
  unfold markProcessed at h
  split at h
  · cases h
  · rename_i r hr
    cases h
    exact ⟨r, hr, rfl⟩

theorem markFailed_eq_ok {error : String} {policy : RetryPolicy} {outcome : FailureOutcome}
    (h : s.markFailed id error now policy = .ok (outcome, s')) :
    ∃ r, s.get? id = some r ∧ (r.isTerminal = true ∧ outcome = .unchanged ∧ s' = s ∨
      r.isTerminal = false ∧ outcome ≠ .unchanged ∧ s' = s.put (r.failed error now policy)) := by
  unfold markFailed at h
  split at h
  · cases h
  · rename_i r hr
    refine ⟨r, hr, ?_⟩
    split at h
    · rename_i ht
      cases h
      exact .inl ⟨ht, rfl, rfl⟩
    · rename_i ht
      cases h
      refine .inr ⟨by simpa using ht, ?_, rfl⟩
      unfold Row.failureOutcome
      split <;> simp

theorem requeue_eq_ok {row : Row} (h : s.requeue id = .ok (row, s')) :
    ∃ r, s.get? id = some r ∧ r.isDeadLettered = true ∧ row = r.requeued ∧ s' = s.put r.requeued := by
  unfold requeue at h
  split at h
  · rename_i r hr
    split at h
    · rename_i hd
      cases h
      exact ⟨r, hr, hd, rfl, rfl⟩
    · cases h
  · cases h

section Row

variable {policy : RetryPolicy} {error : String}

theorem markProcessed_live (hr : s.get? id = some r) (hlive : r.isTerminal = false) :
    s.markProcessed id now = .ok (s.put (r.processed now)) := by
  simp [markProcessed, hr, hlive]

theorem markProcessed_ended (hr : s.get? id = some r) (hend : r.isTerminal = true) :
    s.markProcessed id now = .ok s := by
  simp [markProcessed, hr, hend]

theorem markProcessed_missing (h : s.get? id = none) : s.markProcessed id now = .error (.notFound id) := by
  rw [markProcessed, h]

theorem markFailed_live (hr : s.get? id = some r) (hlive : r.isTerminal = false) :
    s.markFailed id error now policy =
      .ok (Row.failureOutcome (r.failed error now policy).attempts (r.failed error now policy).nextAttemptAt,
        s.put (r.failed error now policy)) := by
  simp [markFailed, hr, hlive]

theorem markFailed_ended (hr : s.get? id = some r) (hend : r.isTerminal = true) :
    s.markFailed id error now policy = .ok (.unchanged, s) := by
  simp [markFailed, hr, hend]

theorem markFailed_missing (h : s.get? id = none) : s.markFailed id error now policy = .error (.notFound id) := by
  rw [markFailed, h]

theorem requeue_dead (hr : s.get? id = some r) (hdead : r.isDeadLettered = true) :
    s.requeue id = .ok (r.requeued, s.put r.requeued) := by
  simp [requeue, hr, hdead]

theorem requeue_missing (h : ∀ r, s.get? id = some r → r.isDeadLettered = false) :
    s.requeue id = .error (.notFound id) := by
  cases hr : s.get? id with
  | none => rw [requeue, hr]
  | some r => simp [requeue, hr, h r hr]

end Row

theorem get?_purge (s : Store) (before : Time) (id : EventId) :
    (s.purge before).2.get? id = (s.get? id).filter fun r => r.processedAt.all (before ≤ ·) :=
  Table.get?_filter ..

end Outbox.Store
