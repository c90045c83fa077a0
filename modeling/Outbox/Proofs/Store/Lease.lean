import Outbox.Proofs.Store.Operation

namespace Outbox.Store

def Meets (kind : Store → Operation → Prop) : Store → List Operation → Prop
  | _, [] => False
  | s, op :: ops => kind s op ∨ Meets kind (s.answer op).2 ops

/-- A failure that is written, or a requeue, of one id. -/
def Frees (id : EventId) (s : Store) : Operation → Prop
  | .markFailed i error now policy =>
    i = id ∧ ∃ outcome, (s.answer (.markFailed i error now policy)).1 = .failed outcome ∧ outcome ≠ .unchanged
  | .requeue i => i = id ∧ ∃ r, (s.answer (.requeue i)).1 = .row (some r)
  | _ => False

def Deletes (id : EventId) (s : Store) : Operation → Prop
  | .purge before => (s.get? id).isSome ∧ ((s.purge before).2.get? id).isNone
  | _ => False

def Inserts (id : EventId) (s : Store) : Operation → Prop
  | .add rows => (s.answer (.add rows)).1 = .done ∧ ∃ r ∈ rows, r.id = id
  | _ => False

/-- A purge deletes the row of an id, and a later addition brings a row of that id again. -/
def Replaces (id : EventId) : Store → List Operation → Prop
  | _, [] => False
  | s, op :: ops =>
    Deletes id s op ∧ Meets (Inserts id) (s.answer op).2 ops ∨ Replaces id (s.answer op).2 ops

def Releases (id : EventId) (s : Store) (ops : List Operation) : Prop := Meets (Frees id) s ops ∨ Replaces id s ops

/-- A row under a lease that ends at `expiry` or later, or one that was delivered under it. -/
def Guarded (expiry : Time) (r : Row) : Prop :=
  r.isDeadLettered = false ∧ (r.isProcessed = true ∨ ∃ t, r.lockedUntil = some t ∧ expiry ≤ t)

variable {s : Store} {r : Row} {id : EventId} {expiry : Time}

theorem frees_failed {error : String} {now : Time} {policy : RetryPolicy} (hr : s.get? id = some r)
    (hlive : r.isTerminal = false) : Frees id s (.markFailed id error now policy) := by
  refine ⟨rfl, Row.failureOutcome (r.failed error now policy).attempts (r.failed error now policy).nextAttemptAt,
    ?_, ?_⟩
  · simp [answer, reply, markFailed, hr, hlive]
  · unfold Row.failureOutcome
    split <;> simp

theorem frees_requeued (hr : s.get? id = some r) (hdead : r.isDeadLettered = true) : Frees id s (.requeue id) :=
  ⟨rfl, r.requeued, by simp [answer, reply, requeue, hr, hdead]⟩

theorem guarded_step {op : Operation} (hr : s.get? id = some r) (hg : Guarded expiry r) (hop : ¬ Frees id s op) :
    (∃ q, (s.answer op).2.get? id = some q ∧ Guarded expiry q) ∨
      Deletes id s op ∧ (s.answer op).2.get? id = none := by
  obtain ⟨hdead, hg⟩ := hg
  have hc := change_answer s op id
  rw [hr] at hc
  generalize hq : (s.answer op).2.get? id = q? at hc
  cases hc with
  | same => exact .inl ⟨r, rfl, hdead, hg⟩
  | leased take worker lease now until' _ hexpiry hclaim =>
      refine .inl ⟨_, rfl, hdead, .inr ⟨until', rfl, ?_⟩⟩
      rcases hg with hp | ⟨t, ht, hle⟩
      · rw [Row.not_processed_of_claimable hclaim] at hp
        cases hp
      · have hlt := Row.lt_of_claimable hclaim ht
        exact Time.le_of_lt (Time.lt_of_le_of_lt hle (Time.lt_of_lt_of_le hlt (Time.le_of_lt (lt_leaseExpiry hexpiry))))
  | processed now _ hlive => exact .inl ⟨_, rfl, hdead, .inl rfl⟩
  | failed error now policy _ hlive => exact absurd (frees_failed hr hlive) hop
  | requeued _ hd => exact absurd (frees_requeued hr hd) hop
  | purged before t _ ht hbefore => exact .inr ⟨⟨by simp [hr], by simpa [answer] using hq⟩, rfl⟩

theorem inserts_of_added {op : Operation} (hnone : s.get? id = none) (hsome : ((s.answer op).2.get? id).isSome) :
    Inserts id s op := by
  have hc := change_answer s op id
  obtain ⟨q, hq⟩ := Option.isSome_iff_exists.1 hsome
  rw [hnone, hq] at hc
  cases hc with
  | added rows _ hr hid =>
      refine ⟨?_, q, hr, hid⟩
      simp only [answer, reply] at hq ⊢
      split
      · rfl
      · rename_i he
        simp [he, hnone] at hq

theorem absent_run {ops : List Operation} (hnone : s.get? id = none) (hops : ¬ Meets (Inserts id) s ops) :
    (s.after ops).get? id = none := by
  induction ops generalizing s with
  | nil => exact hnone
  | cons op ops ih =>
      obtain ⟨hop, hops⟩ := not_or.1 hops
      refine ih ?_ hops
      by_contra hsome
      exact hop (inserts_of_added hnone (Option.isSome_iff_ne_none.2 hsome))

theorem guarded_run {ops : List Operation} (hr : s.get? id = some r) (hg : Guarded expiry r)
    (hops : ¬ Releases id s ops) : ∀ q, (s.after ops).get? id = some q → Guarded expiry q := by
  induction ops generalizing s r with
  | nil =>
      intro q hq
      cases hr.symm.trans hq
      exact hg
  | cons op ops ih =>
      obtain ⟨hfree, hreplace⟩ := not_or.1 hops
      obtain ⟨hop, hfree⟩ := not_or.1 hfree
      obtain ⟨hdelete, hreplace⟩ := not_or.1 hreplace
      rcases guarded_step hr hg hop with ⟨q, hq, hg'⟩ | ⟨hd, hnone⟩
      · exact ih hq hg' (not_or.2 ⟨hfree, hreplace⟩)
      · intro q hq
        have habsent := absent_run hnone fun hi => hdelete ⟨hd, hi⟩
        rw [after_cons, habsent] at hq
        cases hq

theorem claimed_guarded {worker : String} {now : Time} {batch : List Row} {s' : Store}
    (hc : Claimed s worker now expiry batch s') (hr : r ∈ batch) : s'.get? r.id = some r ∧ Guarded expiry r := by
  obtain ⟨q, hq, hclaim, rfl⟩ := hc.leased r hr
  have hlive := Row.isTerminal_eq_false.1 (Row.not_terminal_of_claimable hclaim)
  exact ⟨hc.get?_of_mem hr, hlive.2, .inr ⟨expiry, rfl, Time.le_refl _⟩⟩

/-- A row is not leased again before its lease is over, whatever happens in between, unless that lease
is given up: by a failure, by a requeue, or by the row's end and return. -/
theorem lease_exclusive (s₁ s₂ s₃ s₄ : Store) (take₁ take₂ : Nat) (worker₁ worker₂ : String)
    (lease₁ lease₂ : Duration) (now₁ now₂ : Time) (batch₁ batch₂ : List Row) (between : List Operation)
    (h₁ : s₁.answer (.claim take₁ worker₁ lease₁ now₁) = (.rows batch₁, s₂)) (h : s₂.after between = s₃)
    (h₂ : s₃.answer (.claim take₂ worker₂ lease₂ now₂) = (.rows batch₂, s₄)) :
    ∃ expiry, (∀ r ∈ batch₁, r.lockedUntil = some expiry) ∧
      (∀ r ∈ batch₁, ∀ q ∈ batch₂, q.id = r.id → expiry < now₂ ∨ Releases r.id s₂ between) ∧
      (now₂ ≤ expiry → (∀ r ∈ batch₁, ¬ Releases r.id s₂ between) → ∀ r ∈ batch₁, ∀ q ∈ batch₂, q.id ≠ r.id) := by
  obtain ⟨expiry, -, hc₁⟩ := claim_eq_ok (reply_claim h₁)
  obtain ⟨_, -, hc₂⟩ := claim_eq_ok (reply_claim h₂)
  have hmain : ∀ r ∈ batch₁, ∀ q ∈ batch₂, q.id = r.id → expiry < now₂ ∨ Releases r.id s₂ between := by
    intro r hr q hq hid
    by_contra hneither
    obtain ⟨hlate, hreleased⟩ := not_or.1 hneither
    obtain ⟨hget, hg⟩ := claimed_guarded hc₁ hr
    obtain ⟨p, hp, hclaim, -⟩ := hc₂.leased q hq
    obtain ⟨-, hp' | ⟨t, ht, hle⟩⟩ := guarded_run hget hg hreleased p (by rw [h, ← hid, hp])
    · rw [Row.not_processed_of_claimable hclaim] at hp'
      cases hp'
    · exact hlate (Time.lt_of_le_of_lt hle (Row.lt_of_claimable hclaim ht))
  refine ⟨expiry, ?_, hmain, ?_⟩
  · intro r hr
    obtain ⟨q, -, -, rfl⟩ := hc₁.leased r hr
    rfl
  · intro hle hkept r hr q hq hid
    rcases hmain r hr q hq hid with hlt | hreleased
    · exact Time.not_le.2 hlt hle
    · exact hkept r hr hreleased

/-- A second worker gets the row two seconds after a lease of one second, past a failure of another row. -/
theorem lease_exclusive_lapsed :
    let s := empty.put (Row.sample 7)
    let op₁ := Operation.claim 1 "first" (.ofSeconds 1) .epoch
    let op₂ := Operation.claim 5 "second" (.ofSeconds 1) (Time.epoch.later 2)
    let between := [.markFailed ⟨.ofNat 8⟩ "down" .epoch .once, .stats .epoch]
    let batch₁ := [(Row.sample 7).leasedTo "first" (Time.epoch.later 1)]
    let batch₂ := [(Row.sample 7).leasedTo "second" (Time.epoch.later 3)]
    (s.answer op₁).1 = .rows batch₁ ∧ (((s.answer op₁).2.after between).answer op₂).1 = .rows batch₂ ∧
      ∃ expiry, (∀ r ∈ batch₁, r.lockedUntil = some expiry) ∧
        (∀ r ∈ batch₁, ∀ q ∈ batch₂, q.id = r.id →
          expiry < Time.epoch.later 2 ∨ Releases r.id (s.answer op₁).2 between) ∧
        (Time.epoch.later 2 ≤ expiry → (∀ r ∈ batch₁, ¬ Releases r.id (s.answer op₁).2 between) →
          ∀ r ∈ batch₁, ∀ q ∈ batch₂, q.id ≠ r.id) := by
  intro s op₁ op₂ between batch₁ batch₂
  have h₁ : s.answer op₁ = (.rows batch₁, (s.answer op₁).2) := by decide +kernel
  have h₂ : ((s.answer op₁).2.after between).answer op₂ =
      (.rows batch₂, (((s.answer op₁).2.after between).answer op₂).2) := by decide +kernel
  exact ⟨congrArg Prod.fst h₁, congrArg Prod.fst h₂, lease_exclusive _ _ _ _ _ _ _ _ _ _ _ _ _ _ _ h₁ rfl h₂⟩

end Outbox.Store
