import Outbox.Proofs.Retry
import Outbox.Proofs.Store.History
import Outbox.Proofs.Store.Order

namespace Outbox

namespace RetryPolicy

def lastAttempt (p : RetryPolicy) : Nat := max 1 p.maxAttempts.toNat

variable {p : RetryPolicy} {n : Nat}

theorem lastAttempt_pos (p : RetryPolicy) : 0 < p.lastAttempt := Nat.lt_of_lt_of_le Nat.one_pos (Nat.le_max_left ..)

theorem lastAttempt_lt (p : RetryPolicy) : p.lastAttempt < 2 ^ 32 := by
  have hword := p.maxAttempts.toNat_lt
  rw [lastAttempt]
  omega

theorem shouldRetry_iff {attempts : UInt32} : p.shouldRetry attempts = true ↔ attempts.toNat < p.maxAttempts.toNat := by
  rw [shouldRetry, decide_eq_true_eq, UInt32.lt_iff_toNat_lt]

end RetryPolicy

namespace Row

/-- A row that failed `n` times under a policy. -/
structure HasFailed (r : Row) (p : RetryPolicy) (n : Nat) : Prop where
  undelivered : r.isProcessed = false
  dead : r.isDeadLettered = decide (p.lastAttempt ≤ n)
  attempts : r.attempts.toNat = min n p.lastAttempt

variable {r : Row} {p : RetryPolicy} {n : Nat}

theorem HasFailed.live_iff (h : r.HasFailed p n) : r.isTerminal = false ↔ n < p.lastAttempt := by
  rw [isTerminal_eq_false, h.dead, decide_eq_false_iff_not, Nat.not_le]
  exact and_iff_right h.undelivered

theorem hasFailed_zero (hproc : r.isProcessed = false) (hdead : r.isDeadLettered = false) (hnone : r.attempts = 0)
    (p : RetryPolicy) : r.HasFailed p 0 := by
  refine ⟨hproc, ?_, ?_⟩
  · rw [hdead, decide_eq_false (Nat.not_le.2 p.lastAttempt_pos)]
  · rw [hnone, Nat.zero_min]
    rfl

theorem IsStaged.hasFailed (h : r.IsStaged) (p : RetryPolicy) : r.HasFailed p 0 := by
  rw [← h]
  exact hasFailed_zero rfl rfl rfl p

theorem HasFailed.leasedTo (h : r.HasFailed p n) (worker : String) (expiry : Time) :
    (r.leasedTo worker expiry).HasFailed p n := ⟨h.undelivered, h.dead, h.attempts⟩

theorem HasFailed.countAttempt (h : r.HasFailed p n) (hlive : r.isTerminal = false) :
    (countAttempt r.attempts).toNat = n + 1 := by
  have hn := h.live_iff.1 hlive
  have hword := p.lastAttempt_lt
  have hattempts := h.attempts
  rw [toNat_countAttempt (by omega)]
  omega

theorem HasFailed.failed (h : r.HasFailed p n) (hlive : r.isTerminal = false) (error : String) (now : Time) :
    (r.failed error now p).HasFailed p (n + 1) := by
  have hn := h.live_iff.1 hlive
  have hcount := h.countAttempt hlive
  refine ⟨h.undelivered, ?_, ?_⟩
  · rw [isDeadLettered_failed hlive, Bool.not_eq_eq_eq_not, ← decide_not, Bool.eq_iff_iff,
      RetryPolicy.shouldRetry_iff, hcount, decide_eq_true_eq, RetryPolicy.lastAttempt]
    omega
  · show (Row.countAttempt r.attempts).toNat = _
    omega

theorem HasFailed.ended (h : r.HasFailed p n) (hend : r.isTerminal = true) : r.HasFailed p (n + 1) := by
  have hn : p.lastAttempt ≤ n := by
    apply Nat.not_lt.1
    intro hlt
    exact absurd (h.live_iff.2 hlt) (by rw [hend]; decide)
  have hattempts := h.attempts
  refine ⟨h.undelivered, ?_, by omega⟩
  rw [h.dead, decide_eq_true hn, decide_eq_true (Nat.le_succ_of_le hn)]

end Row

namespace Store

variable {s : Store} {r : Row} {id : EventId} {op : Operation} {ops : List Operation} {policy : RetryPolicy}

/-- A row is added as it was staged, or one that was given up undelivered is requeued. -/
def Begins (id : EventId) (s : Store) : Operation → Prop
  | .add rows => (s.answer (.add rows)).1 = .done ∧ ∃ r ∈ rows, r.id = id ∧ r.IsStaged
  | .requeue i => i = id ∧ ∃ r, s.get? id = some r ∧ r.isDeadLettered = true ∧ r.isProcessed = false
  | _ => False

/-- Anything but a delivery of the row, a requeue of it and a failure under another policy. -/
def Operation.Tries (id : EventId) (policy : RetryPolicy) : Operation → Prop
  | .markProcessed i _ | .requeue i => i ≠ id
  | .markFailed i _ _ p => i = id → p = policy
  | _ => True

def Operation.isFailureOf (id : EventId) : Operation → Bool
  | .markFailed i .. => i = id
  | _ => false

theorem Begins.hasFailed (h : Begins id s op) (policy : RetryPolicy) :
    ∃ r, (s.answer op).2.get? id = some r ∧ r.HasFailed policy 0 := by
  cases op with
  | add rows =>
      obtain ⟨hdone, r, hr, rfl, hstaged⟩ := h
      obtain ⟨hnodup, -, hget⟩ := add_eq_ok (add_of_done hdone)
      refine ⟨r, ?_, hstaged.hasFailed policy⟩
      rw [hget, find?_id_eq_some hnodup hr, Option.some_or]
  | requeue i =>
      obtain ⟨rfl, r, hr, hdead, hproc⟩ := h
      exact ⟨r.requeued, get?_requeue hr hdead, Row.hasFailed_zero (r := r.requeued) hproc rfl rfl policy⟩
  | _ => exact h.elim

theorem answer_markFailed_ended {error : String} {now : Time} (hr : s.get? id = some r) (hend : r.isTerminal = true) :
    s.answer (.markFailed id error now policy) = (.failed .unchanged, s) := by
  rw [answer, markFailed_ended hr hend, reply]

theorem answer_markFailed_live {error : String} {now : Time} (hr : s.get? id = some r) (hlive : r.isTerminal = false) :
    s.answer (.markFailed id error now policy) =
      (.failed (Row.failureOutcome (Row.countAttempt r.attempts)
        (policy.nextAttempt (Row.countAttempt r.attempts) now)), s.put (r.failed error now policy)) := by
  rw [answer, markFailed_live hr hlive, reply]
  rfl

theorem hasFailed_answer {n : Nat} (hr : s.get? id = some r) (h : r.HasFailed policy n) (hop : op.Tries id policy) :
    ∃ q, (s.answer op).2.get? id = some q ∧ q.HasFailed policy (n + [op].countP (·.isFailureOf id)) := by
  by_cases hfails : op.isFailureOf id = true
  · rw [List.countP_singleton, if_pos hfails]
    cases op with
    | markFailed i error now p =>
        obtain rfl : i = id := of_decide_eq_true hfails
        obtain rfl := hop rfl
        cases hlive : r.isTerminal with
        | false => exact ⟨_, get?_markFailed hr hlive, h.failed hlive error now⟩
        | true =>
            rw [answer_markFailed_ended hr hlive]
            exact ⟨r, hr, h.ended hlive⟩
    | _ => cases hfails
  · rw [List.countP_singleton, if_neg hfails]
    have hc := change_answer s op id
    rw [hr] at hc
    generalize (s.answer op).2.get? id = x at hc
    cases hc with
    | same => exact ⟨r, rfl, h⟩
    | leased take worker lease now expiry => exact ⟨_, rfl, h.leasedTo worker expiry⟩
    | processed | requeued => exact absurd rfl hop
    | failed => exact absurd (decide_eq_true rfl) hfails
    | purged before t _ ht =>
        have hproc := h.undelivered
        rw [Row.isProcessed, ht] at hproc
        cases hproc

theorem hasFailed_after {n : Nat} (hr : s.get? id = some r) (h : r.HasFailed policy n)
    (hops : ∀ op ∈ ops, op.Tries id policy) :
    ∃ q, (s.after ops).get? id = some q ∧ q.HasFailed policy (n + ops.countP (·.isFailureOf id)) := by
  induction ops generalizing s r n with
  | nil => exact ⟨r, hr, h⟩
  | cons op ops ih =>
      obtain ⟨hop, hops⟩ := List.forall_mem_cons.1 hops
      obtain ⟨q, hq, hfailed⟩ := hasFailed_answer hr h hop
      obtain ⟨p, hp, hlast⟩ := ih hq hfailed hops
      rw [Nat.add_assoc, ← List.countP_append] at hlast
      exact ⟨p, hp, hlast⟩

def Claims (id : EventId) (s : Store) : Operation → Prop
  | .claim take worker lease now =>
    ∃ rows, (s.answer (.claim take worker lease now)).1 = .rows rows ∧ ∃ r ∈ rows, r.id = id
  | _ => False

/-- The row of an id can be claimed at some moments only, from here to its next claim, unless it is resolved or requeued
in between. -/
def Waits (s : Store) (id : EventId) (free : Time → Prop) : Prop :=
  ∀ later, (∀ op ∈ later, op.target? ≠ some id) → ¬ Meets (Claims id) s later →
    ∀ t, (∃ r ∈ (s.after later).claimable t, r.id = id) ↔ free t

theorem unclaimed_answer (hr : s.get? id = some r) (hproc : r.isProcessed = false) (htarget : op.target? ≠ some id)
    (hclaim : ¬ Claims id s op) : (s.answer op).2.get? id = some r := by
  have hc := change_answer s op id
  rw [hr] at hc
  generalize hx : (s.answer op).2.get? id = x at hc
  cases hc with
  | same => rfl
  | processed | failed | requeued => exact absurd rfl htarget
  | purged before t _ ht =>
      rw [Row.isProcessed, ht] at hproc
      cases hproc
  | leased take worker lease now expiry _ hexpiry =>
      -- The claim gives a lease to somebody, and had it been for this row, it would have taken it.
      rw [answer, claim_eq s take worker hexpiry] at hx
      have hget := (s.claimed_batchOf take worker expiry now).get? id
      cases hf : (s.batchOf take worker expiry now).find? (·.id = id) with
      | none => rw [← hx, reply, hget, hf, Option.none_or, hr]
      | some q =>
          have hid : q.id = id := by simpa using List.find?_some hf
          refine absurd ⟨_, ?_, q, List.mem_of_find?_eq_some hf, hid⟩ hclaim
          rw [answer, claim_eq s take worker hexpiry, reply]

theorem unclaimed_after (hr : s.get? id = some r) (hproc : r.isProcessed = false)
    (htarget : ∀ op ∈ ops, op.target? ≠ some id) (hclaims : ¬ Meets (Claims id) s ops) :
    (s.after ops).get? id = some r := by
  induction ops generalizing s with
  | nil => exact hr
  | cons op ops ih =>
      obtain ⟨hop, hops⟩ := List.forall_mem_cons.1 htarget
      obtain ⟨hclaim, hclaims⟩ := not_or.1 hclaims
      exact ih (unclaimed_answer hr hproc hop hclaim) hops hclaims

theorem exists_claimable_iff (hr : s.get? id = some r) (t : Time) :
    (∃ q ∈ s.claimable t, q.id = id) ↔ r.isClaimable t = true := by
  constructor
  · rintro ⟨q, hq, rfl⟩
    obtain ⟨hget, hclaim⟩ := mem_claimable.1 hq
    cases hr.symm.trans hget
    exact hclaim
  · intro hclaim
    obtain rfl := id_of_get? hr
    exact ⟨r, mem_claimable.2 ⟨hr, hclaim⟩, rfl⟩

theorem waits_of_get? {free : Time → Prop} (hr : s.get? id = some r) (hproc : r.isProcessed = false)
    (hfree : ∀ t, r.isClaimable t = true ↔ free t) : s.Waits id free := by
  intro later htarget hclaims t
  rw [exists_claimable_iff (unclaimed_after hr hproc htarget hclaims), hfree]

/-- A row is left alone: no claim takes it at any time, and no attempt at it has an effect. -/
structure GivenUp (s : Store) (id : EventId) : Prop where
  barred : ∀ t, ∀ r ∈ s.claimable t, r.id ≠ id
  failed : ∀ error now policy, s.answer (.markFailed id error now policy) = (.failed .unchanged, s)
  processed : ∀ now, s.answer (.markProcessed id now) = (.done, s)

theorem givenUp_of_dead (hr : s.get? id = some r) (hdead : r.isDeadLettered = true) : s.GivenUp id := by
  have hend : r.isTerminal = true := by rw [Row.isTerminal, hdead, Bool.or_true]
  refine ⟨fun t q hq hid => ?_, fun error now policy => answer_markFailed_ended hr hend, fun now => ?_⟩
  · have hclaim := (exists_claimable_iff hr t).1 ⟨q, hq, hid⟩
    rw [Row.not_terminal_of_claimable hclaim] at hend
    cases hend
  · rw [answer, markProcessed_ended hr hend, reply]

theorem lists_deadLetters (s : Store) :
    s.Lists Row.isDeadLettered (·.deadLetteredAt)
      ((s.rows.entries.filter Row.isDeadLettered).mergeSort deadLetterPrecedes) := by
  apply lists_mergeSort isOrder_deadLetterPrecedes
  intro a b ha hb hle hid
  obtain ⟨t, ht⟩ := Option.isSome_iff_exists.1 ha
  obtain ⟨u, hu⟩ := Option.isSome_iff_exists.1 hb
  rw [deadLetterPrecedes, ht, hu] at hle
  exact .of_earlier ht hu hle hid

/-- What becomes of the rows that were given up: they are left alone and listed, the longest ago first, and a requeue
brings back one of them and nothing else. -/
structure KeepsDead (s : Store) : Prop where
  left : ∀ id r, s.get? id = some r → r.isDeadLettered = true → s.GivenUp id
  listed : ∃ rows, s.Lists Row.isDeadLettered (·.deadLetteredAt) rows ∧
    ∀ limit, s.answer (.deadLetters limit) = (.rows (rows.take limit), s)
  requeued : ∀ id r, s.get? id = some r → r.isDeadLettered = true → ∃ s',
    s.answer (.requeue id) = (.row (some r.requeued), s') ∧ (∀ limit, ∀ q ∈ s'.deadLetters limit, q.id ≠ id) ∧
      (r.isProcessed = false → s'.Waits id fun _ => True)
  refused : ∀ id, (∀ r, s.get? id = some r → r.isDeadLettered = false) →
    s.answer (.requeue id) = (.refused (.notFound id), s)

theorem keepsDead (s : Store) : s.KeepsDead where
  left _ _ := givenUp_of_dead
  listed := ⟨_, s.lists_deadLetters, fun _ => rfl⟩
  refused id h := by rw [answer, requeue_missing h, reply]
  requeued id r hr hdead := by
    have hget := get?_requeue hr hdead
    have hanswer : s.answer (.requeue id) = (.row (some r.requeued), s.put r.requeued) := by
      rw [answer, requeue_dead hr hdead, reply]
    rw [hanswer] at hget
    refine ⟨s.put r.requeued, hanswer, fun limit q hq he => ?_, fun hproc => ?_⟩
    · obtain ⟨hq, hdead⟩ := ((s.put r.requeued).lists_deadLetters.mem q).1 (List.mem_of_mem_take hq)
      rw [he, hget] at hq
      cases hq
      cases hdead
    · apply waits_of_get? hget hproc
      intro t
      have hlive : r.requeued.isTerminal = false := Row.isTerminal_eq_false.2 ⟨hproc, rfl⟩
      rw [Row.isClaimable, hlive]
      exact iff_of_true rfl trivial

theorem waits_failed {error : String} {now next : Time} (hr : s.get? id = some r) (hlive : r.isTerminal = false)
    (hnext : policy.nextAttempt (Row.countAttempt r.attempts) now = some next) :
    (s.answer (.markFailed id error now policy)).2.Waits id (next ≤ ·) := by
  obtain ⟨hproc, hdead⟩ := Row.isTerminal_eq_false.1 hlive
  apply waits_of_get? (get?_markFailed hr hlive) hproc
  intro t
  have hlive' : (r.failed error now policy).isTerminal = false := by
    refine Row.isTerminal_eq_false.2 ⟨hproc, ?_⟩
    rw [Row.isDeadLettered_failed hlive, ← policy.nextAttempt_isSome _ now, hnext]
    rfl
  have hdue : (r.failed error now policy).nextAttemptAt = some next := hnext
  have hfree : (r.failed error now policy).lockedUntil = none := rfl
  rw [Row.isClaimable, hlive', hdue, hfree]
  simp

/-- Whatever else is done after a row was staged or requeued, its failures under a policy are counted: those before the
last attempt set the next one, on the moment the wait is over or the last one of the calendar if that is past it, and
the last gives the row up. -/
theorem failures_exhaust (s : Store) (id : EventId) (policy : RetryPolicy) (start : Operation) (ops : List Operation)
    (hstart : Begins id s start) (hops : ∀ op ∈ ops, op.Tries id policy) :
    let t := (s.answer start).2.after ops
    let k := ops.countP (·.isFailureOf id) + 1
    (k < policy.maxAttempts.toNat → ∀ error now, ∃ attempts next t',
      t.answer (.markFailed id error now policy) = (.failed (.retrying attempts next), t') ∧ attempts.toNat = k ∧
        next = (now.plus? (policy.backoff attempts)).getD .latest ∧
        next.clock = min (now.clock + (policy.backoff attempts).nanos) Time.latest.clock ∧
        (now ≤ .latest → next ≤ .latest) ∧ t'.Waits id (next ≤ ·)) ∧
      (k = max 1 policy.maxAttempts.toNat → ∀ error now, ∃ attempts t',
        t.answer (.markFailed id error now policy) = (.failed (.deadLettered attempts), t') ∧ attempts.toNat = k) ∧
      (∃ r, t.get? id = some r ∧ r.isProcessed = false ∧
        (r.isDeadLettered = true ↔ max 1 policy.maxAttempts.toNat < k)) ∧
      t.KeepsDead := by
  intro t k
  obtain ⟨q, hq, hzero⟩ := hstart.hasFailed policy
  obtain ⟨r, hr, hfailed⟩ := hasFailed_after hq hzero hops
  rw [Nat.zero_add] at hfailed
  have hlast : policy.lastAttempt = max 1 policy.maxAttempts.toNat := rfl
  refine ⟨fun hk error now => ?_, fun hk error now => ?_, ⟨r, hr, hfailed.undelivered, ?_⟩, t.keepsDead⟩
  · have hlive : r.isTerminal = false := hfailed.live_iff.2 (by omega)
    have hcount := hfailed.countAttempt hlive
    have hretry : policy.shouldRetry (Row.countAttempt r.attempts) = true :=
      RetryPolicy.shouldRetry_iff.2 (by rw [hcount]; exact hk)
    have hnext : policy.nextAttempt (Row.countAttempt r.attempts) now = _ := if_pos hretry
    have hanswer : t.answer (.markFailed id error now policy) = _ := answer_markFailed_live hr hlive
    have hwaits : (t.answer (.markFailed id error now policy)).2.Waits id _ := waits_failed hr hlive hnext
    rw [hanswer] at hwaits
    rw [hnext] at hanswer
    exact ⟨_, _, _, hanswer, hcount, rfl, Time.clock_plus? now _, fun hnow => Time.plus?_le_latest hnow _, hwaits⟩
  · have hlive : r.isTerminal = false := hfailed.live_iff.2 (by omega)
    have hcount := hfailed.countAttempt hlive
    have hretry : ¬ policy.shouldRetry (Row.countAttempt r.attempts) = true := by
      rw [RetryPolicy.shouldRetry_iff, hcount]
      omega
    have hnext : policy.nextAttempt (Row.countAttempt r.attempts) now = none := if_neg hretry
    have hanswer : t.answer (.markFailed id error now policy) = _ := answer_markFailed_live hr hlive
    rw [hnext] at hanswer
    exact ⟨_, _, hanswer, hcount⟩
  · rw [hfailed.dead, decide_eq_true_eq, hlast]
    omega

/-- A row that failed under one worker and is leased to another is given up by its second failure, whenever that is. -/
theorem failures_exhaust_twice :
    let id : EventId := ⟨.ofNat 7⟩
    let policy : RetryPolicy := ⟨2, .ofSeconds 1, .ofSeconds 60⟩
    let ops := [Operation.claim 1 "first" (.ofSeconds 30) .epoch, .markFailed id "down" (Time.epoch.later 5) policy,
      .claim 1 "second" (.ofSeconds 30) (Time.epoch.later 6)]
    let t := (empty.answer (.add [Row.sample 7])).2.after ops
    Begins id empty (.add [Row.sample 7]) ∧ (∀ op ∈ ops, op.Tries id policy) ∧
      (t.get? id).any (·.lockedBy = some "second") = true ∧
      (∀ error now, ∃ attempts t',
        t.answer (.markFailed id error now policy) = (.failed (.deadLettered attempts), t') ∧ attempts.toNat = 2) ∧
      t.KeepsDead := by
  intro id policy ops t
  have hstart : Begins id empty (.add [Row.sample 7]) := by
    refine ⟨by decide +kernel, Row.sample 7, List.mem_singleton_self _, rfl, by decide⟩
  have hops : ∀ op ∈ ops, op.Tries id policy := by
    simp [ops, Operation.Tries]
  obtain ⟨-, hdead, -, hkeeps⟩ := failures_exhaust empty id policy _ ops hstart hops
  exact ⟨hstart, hops, by decide +kernel, fun error now => hdead rfl error now, hkeeps⟩

/-- Where a wait of nothing begins in the leap second at the end of the calendar, the next attempt is in that leap
second too, past the last regular moment. -/
theorem retried_past_latest :
    let now : Time := ⟨8210266876799, 1_500_000_000, by decide, by decide, by decide, by decide⟩
    let policy : RetryPolicy := ⟨3, .zero, .zero⟩
    let failure := Operation.markFailed ⟨.ofNat 7⟩ "down" now policy
    now.plus? (policy.backoff 1) = some now ∧
      ((empty.answer (.add [Row.sample 7])).2.answer failure).1 = .failed (.retrying 1 now) ∧
      ((empty.answer (.add [Row.sample 7])).2.answer failure).1 ≠ .failed (.retrying 1 (min now .latest)) := by
  decide +kernel

end Store

end Outbox
