import Mathlib.Algebra.BigOperators.Group.List.Basic
import Mathlib.Algebra.GroupWithZero.Nat
import Outbox.Proofs.Retry
import Outbox.Proofs.Store.Operation
import Outbox.Proofs.Store.Order

namespace Outbox

theorem Row.not_claimable_leasedTo (r : Row) (worker : String) {expiry t : Time} (h : t ≤ expiry) :
    (r.leasedTo worker expiry).isClaimable t = false := by
  rw [← Bool.not_eq_true]
  exact fun hclaim => Time.not_lt.2 h (Row.lt_of_claimable hclaim rfl)

namespace Store

variable {s s' : Store} {now expiry : Time} {worker : String} {lease : Duration}

/-- A lease is written to each of some rows, and to nothing else. It keeps them from being claimed through its last
moment. -/
structure Leases (s : Store) (rows : List Row) (worker : String) (expiry : Time) (batch : List Row) (s' : Store) :
    Prop where
  rows_eq : batch = rows.map fun r => { r with lockedBy := some worker, lockedUntil := some expiry }
  written : ∀ r ∈ batch, s'.get? r.id = some r
  kept : ∀ id, (∀ r ∈ batch, r.id ≠ id) → s'.get? id = s.get? id
  barred : ∀ r ∈ batch, ∀ t, t ≤ expiry → r.isClaimable t = false

theorem leases_batchOf (s : Store) (take : Nat) (worker : String) (expiry now : Time) :
    s.Leases ((s.claimable now).take take) worker expiry (s.batchOf take worker expiry now)
      ⟨s.rows.insertAll (s.batchOf take worker expiry now)⟩ where
  rows_eq := rfl
  written r hr := (s.claimed_batchOf take worker expiry now).get?_of_mem hr
  kept id h := by rw [(s.claimed_batchOf take worker expiry now).get?, find?_id_eq_none.2 h, Option.none_or]
  barred r hr t ht := by
    obtain ⟨q, -, rfl⟩ := List.mem_map.1 hr
    exact q.not_claimable_leasedTo worker ht

theorem answer_claim_granted (s : Store) (take : Nat) (worker : String) (h : leaseExpiry now lease = .ok expiry) :
    s.answer (.claim take worker lease now) =
      (.rows (s.batchOf take worker expiry now), ⟨s.rows.insertAll (s.batchOf take worker expiry now)⟩) := by
  rw [answer, claim_eq s take worker h]
  rfl

theorem answer_claim_refused {e : StoreError} (s : Store) (take : Nat) (worker : String)
    (h : leaseExpiry now lease = .error e) : s.answer (.claim take worker lease now) = (.refused e, s) := by
  rw [answer, claim, h]
  rfl

theorem claimable_claimed (s : Store) (take : Nat) (worker : String) (h : leaseExpiry now lease = .ok expiry) :
    (⟨s.rows.insertAll (s.batchOf take worker expiry now)⟩ : Store).claimable now = (s.claimable now).drop take := by
  have hnow := Time.le_of_lt (lt_leaseExpiry h)
  refine claimable_drop (fun r => r.not_claimable_leasedTo worker hnow) fun id => ?_
  rw [(s.claimed_batchOf take worker expiry now).get?, batchOf, List.find?_map]
  rfl

theorem batchOf_add (s : Store) (a b : Nat) (worker : String) (h : leaseExpiry now lease = .ok expiry) :
    s.batchOf (a + b) worker expiry now = s.batchOf a worker expiry now ++
      (⟨s.rows.insertAll (s.batchOf a worker expiry now)⟩ : Store).batchOf b worker expiry now := by
  rw [batchOf, List.take_add, List.map_append, ← claimable_claimed s a worker h]
  rfl

structure Bid where
  take : Nat
  worker : String
  lease : Duration

def Bid.claim (b : Bid) (now : Time) : Operation := .claim b.take b.worker b.lease now

def Bid.IsValid (b : Bid) (now : Time) : Prop := ∃ expiry, leaseExpiry now b.lease = .ok expiry

theorem Bid.isValid_iff {b : Bid} : b.IsValid now ↔ b.lease ≠ .zero ∧ (now.plus? b.lease).isSome = true := by
  simp only [IsValid, leaseExpiry_eq_ok_iff, exists_and_left, Option.isSome_iff_exists]

theorem claims_divide {bids : List Bid} (h : ∀ b ∈ bids, b.IsValid now) :
    ∃ batches : List (List Row), s.replies (bids.map (·.claim now)) = batches.map .rows ∧
      batches.flatten.map (·.id) = ((s.claimable now).take (bids.map (·.take)).sum).map (·.id) ∧
      (s.after (bids.map (·.claim now))).claimable now = (s.claimable now).drop (bids.map (·.take)).sum := by
  induction bids generalizing s with
  | nil => exact ⟨[], rfl, rfl, rfl⟩
  | cons b bids ih =>
      obtain ⟨⟨expiry, hexpiry⟩, hbids⟩ := List.forall_mem_cons.1 h
      have hanswer : s.answer (b.claim now) = _ := s.answer_claim_granted b.take b.worker hexpiry
      have hleft := s.claimable_claimed b.take b.worker hexpiry
      obtain ⟨batches, hreplies, hids, hrest⟩ :=
        ih (s := ⟨s.rows.insertAll (s.batchOf b.take b.worker expiry now)⟩) hbids
      rw [hleft] at hids hrest
      have hbatch : (s.batchOf b.take b.worker expiry now).map (·.id) =
          ((s.claimable now).take b.take).map (·.id) := by
        rw [batchOf, List.map_map]
        rfl
      simp only [List.map_cons, List.sum_cons]
      refine ⟨s.batchOf b.take b.worker expiry now :: batches, ?_, ?_, ?_⟩
      · rw [replies, hanswer, hreplies, List.map_cons]
      · rw [List.flatten_cons, List.map_append, hbatch, hids, List.take_add, List.map_append]
      · rw [after_cons, hanswer, hrest, List.drop_drop]

/-- What can be claimed at a moment is a list of rows in strict order. A claim is refused, and then nothing changes,
just if its lease is none or goes beyond the calendar. Else it leases the first rows of the list, as many as it asks for
and as there are. Two claims of one worker are one claim of both sizes, and any claims at that moment divide the list:
together they are given its first rows, each row once, and the others are left. -/
theorem claims_exact (s : Store) (now : Time) :
    ∃ rows, s.Lists (·.isClaimable now) (some ·.occurredAt) rows ∧
      (∀ take worker lease, s.answer (.claim take worker lease now) = (.refused (.invalidLease lease), s) ↔
        lease = .zero ∨ now.plus? lease = none) ∧
      (∀ take worker lease expiry, lease ≠ .zero → now.plus? lease = some expiry →
        now < expiry ∧ ∃ batch s', s.answer (.claim take worker lease now) = (.rows batch, s') ∧
          batch.length = min take rows.length ∧ s.Leases (rows.take take) worker expiry batch s' ∧
          ∀ more, ∃ batch' s'', s'.answer (.claim more worker lease now) = (.rows batch', s'') ∧
            s.answer (.claim (take + more) worker lease now) = (.rows (batch ++ batch'), s'')) ∧
      ∀ bids : List Bid, (∀ b ∈ bids, b.lease ≠ .zero ∧ (now.plus? b.lease).isSome = true) →
        ∃ batches : List (List Row), s.replies (bids.map (·.claim now)) = batches.map .rows ∧
          batches.flatten.map (·.id) = (rows.take (bids.map (·.take)).sum).map (·.id) ∧
          (s.after (bids.map (·.claim now))).Lists (·.isClaimable now) (some ·.occurredAt)
            (rows.drop (bids.map (·.take)).sum) := by
  refine ⟨s.claimable now, s.lists_claimable now, ?_, ?_, ?_⟩
  · intro take worker lease
    constructor
    · intro h
      cases he : leaseExpiry now lease with
      | ok expiry =>
          rw [answer_claim_granted s take worker he] at h
          cases h
      | error e => exact (leaseExpiry_eq_error_iff.1 he).2
    · exact fun h => answer_claim_refused s take worker (leaseExpiry_eq_error_iff.2 ⟨rfl, h⟩)
  · intro take worker lease expiry hlease hplus
    have hexpiry := leaseExpiry_eq_ok_iff.2 ⟨hlease, hplus⟩
    refine ⟨lt_leaseExpiry hexpiry, _, _, answer_claim_granted s take worker hexpiry, s.length_batchOf ..,
      s.leases_batchOf take worker expiry now, fun more => ⟨_, _, answer_claim_granted _ more worker hexpiry, ?_⟩⟩
    rw [answer_claim_granted s (take + more) worker hexpiry, s.batchOf_add take more worker hexpiry,
      Table.insertAll_append]
  · intro bids hbids
    obtain ⟨batches, hreplies, hids, hleft⟩ := claims_divide (s := s) fun b hb => Bid.isValid_iff.2 (hbids b hb)
    refine ⟨batches, hreplies, hids, ?_⟩
    rw [← hleft]
    exact lists_claimable _ now

theorem claims_exact_two :
    let s := empty.put (Row.sample 7)
    let bids : List Bid := [⟨1, "first", .ofSeconds 1⟩, ⟨1, "second", .ofSeconds 1⟩]
    let batches := [[(Row.sample 7).leasedTo "first" (Time.epoch.later 1)], []]
    (∀ b ∈ bids, b.lease ≠ .zero ∧ (Time.epoch.plus? b.lease).isSome = true) ∧
      s.replies (bids.map (·.claim .epoch)) = batches.map .rows ∧
      ∃ rows, s.Lists (·.isClaimable .epoch) (some ·.occurredAt) rows ∧
        batches.flatten.map (·.id) = (rows.take 2).map (·.id) ∧
        (s.after (bids.map (·.claim .epoch))).Lists (·.isClaimable .epoch) (some ·.occurredAt) (rows.drop 2) := by
  intro s bids batches
  have hbids : ∀ b ∈ bids, b.lease ≠ .zero ∧ (Time.epoch.plus? b.lease).isSome = true := by decide +kernel
  have hreplies : s.replies (bids.map (·.claim .epoch)) = batches.map .rows := by decide +kernel
  obtain ⟨rows, hrows, -, -, hdivide⟩ := claims_exact s .epoch
  obtain ⟨batches', hreplies', hids, hleft⟩ := hdivide bids hbids
  obtain rfl : batches' = batches :=
    List.map_injective_iff.2 (fun _ _ h => Reply.rows.inj h) (hreplies'.symm.trans hreplies)
  exact ⟨hbids, hreplies, rows, hrows, hids, hleft⟩

end Store

end Outbox
