import Outbox.Proofs.Time
import Outbox.Row

namespace Outbox.Row

variable (r : Row) (worker : String) (t : Time)

/-- The row as it was when it was staged: what no operation changes. -/
def asStaged : Row :=
  .staged r.id r.occurredAt r.eventType r.payload r.correlationId r.aggregateId r.key r.createdAt

def IsStaged : Prop := r.asStaged = r

instance : Decidable r.IsStaged := inferInstanceAs (Decidable (_ = _))

def sample (id : Nat) : Row := .staged ⟨.ofNat id⟩ .epoch "accounts.account.created" "\x7b\x7d" none none none .epoch

theorem id_eq_of_asStaged {r q : Row} (h : r.asStaged = q.asStaged) : r.id = q.id := by
  have := congrArg Row.id h
  exact this

@[simp]
theorem id_processed : (r.processed t).id = r.id := rfl

@[simp]
theorem isTerminal_leasedTo : (r.leasedTo worker t).isTerminal = r.isTerminal := rfl

theorem isTerminal_eq_false {r : Row} : r.isTerminal = false ↔ r.isProcessed = false ∧ r.isDeadLettered = false := by
  simp [isTerminal]

theorem not_terminal_of_claimable {r : Row} {now : Time} (h : r.isClaimable now = true) : r.isTerminal = false := by
  simp only [isClaimable, Bool.and_eq_true, Bool.not_eq_true'] at h
  exact h.1.1

theorem not_processed_of_claimable {r : Row} {now : Time} (h : r.isClaimable now = true) : r.isProcessed = false :=
  (isTerminal_eq_false.1 (not_terminal_of_claimable h)).1

theorem lt_of_claimable {r : Row} {now expiry : Time} (h : r.isClaimable now = true)
    (hl : r.lockedUntil = some expiry) : expiry < now := by
  simp only [isClaimable, Bool.and_eq_true, hl, Option.all_some, decide_eq_true_eq] at h
  exact h.2

theorem isClaimable_eq (r : Row) (now : Time) :
    r.isClaimable now = (!r.isTerminal && !r.isLeased now && !r.isBackingOff now) := by
  rw [isClaimable, isBackingOff, isLeased, Time.all_le_eq, Time.all_lt_eq]
  generalize r.isTerminal = ended
  generalize (r.lockedUntil.any fun t => decide (now ≤ t)) = held
  generalize (r.nextAttemptAt.any fun t => decide (now < t)) = waiting
  revert ended held waiting
  decide

theorem leased_or_waiting {r : Row} {now : Time} (hlive : r.isTerminal = false) (hclaim : r.isClaimable now = false) :
    (∃ t, r.lockedUntil = some t ∧ now ≤ t) ∨ ∃ t, r.nextAttemptAt = some t ∧ now < t := by
  have hstate : r.isLeased now = true ∨ r.isBackingOff now = true :=
    Decidable.or_iff_not_imp_left.2 (by simpa [isClaimable_eq, hlive] using hclaim)
  simp only [isLeased, isBackingOff, Bool.and_eq_true, Option.any_eq_true, decide_eq_true_eq] at hstate
  exact hstate.imp And.right And.right

end Outbox.Row
