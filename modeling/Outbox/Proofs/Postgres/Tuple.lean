import Outbox.Postgres.Store
import Outbox.Proofs.Postgres.Database
import Outbox.Proofs.Row
import Outbox.Proofs.Store.Lookup

namespace Outbox.Postgres.Sql

def ofRow (r : Row) : Tuple
  | .id => .uuid r.id.uuid
  | .occurredAt => .time r.occurredAt
  | .createdAt => .time r.createdAt
  | .type => .text r.eventType
  | .payload => .text r.payload
  | .correlationId => .ofOption .text r.correlationId
  | .aggregateId => .ofOption .text r.aggregateId
  | .key => .ofOption .text r.key
  | .processedAt => .ofOption .time r.processedAt
  | .error => .ofOption .text r.error
  | .attempts => .number r.attempts.toNat
  | .nextAttemptAt => .ofOption .time r.nextAttemptAt
  | .lockedBy => .ofOption .text r.lockedBy
  | .lockedUntil => .ofOption .time r.lockedUntil
  | .deadLetteredAt => .ofOption .time r.deadLetteredAt

variable {r q : Row} {ps : List Param} {now : Time} {n : Nat}

theorem ofRow_id_inj : ofRow r .id = ofRow q .id ↔ r.id = q.id := by
  constructor
  · intro h
    injection h with h
    exact congrArg EventId.mk h
  · intro h
    simp only [ofRow, h]

theorem read?_timeColumn (name : String) (t : Option Time) :
    (timeColumn (.ofOption .time t)).read? name = .ok t := by
  cases t <;> rfl

theorem read?_textColumn (name : String) (s : Option String) :
    (textColumn (.ofOption .text s)).read? name = .ok s := by
  cases s <;> rfl

theorem attemptsOf_toNat (n : UInt32) : attemptsOf (n.toNat : Int) = n := by
  rw [attemptsOf, Int.toNat_natCast, UInt32.ofNat_toNat]

theorem contains_all (f : Field) : Field.all.contains f = true := by
  cases f <;> rfl

theorem toRow_record (r : Row) : (record Field.all (ofRow r)).toRow = .ok r := by
  have hdecode : (record Field.all (ofRow r)).decode = .ok r := by
    simp only [Record.decode, record, contains_all, if_true, ofRow, read?_timeColumn, read?_textColumn]
    simp only [uuidColumn, timeColumn, textColumn, numberColumn, Column.read, attemptsOf_toNat, bind, Except.bind]
    rfl
  rw [Record.toRow, hdecode]
  rfl

theorem selects_and (a b : Condition) (t : Tuple) :
    (Condition.and a b).selects ps t = (a.selects ps t && b.selects ps t) := by
  simp only [Condition.selects, Condition.truth]
  rcases a.truth ps t with _ | _ | _ <;> rcases b.truth ps t with _ | _ | _ <;> rfl

theorem selects_or (a b : Condition) (t : Tuple) :
    (Condition.or a b).selects ps t = (a.selects ps t || b.selects ps t) := by
  simp only [Condition.selects, Condition.truth]
  rcases a.truth ps t with _ | _ | _ <;> rcases b.truth ps t with _ | _ | _ <;> rfl

section Times

variable {f : Field} {x : Option Time} (hf : ofRow r f = .ofOption .time x)
include hf

theorem truth_isNull : (Condition.isNull f).truth ps (ofRow r) = some x.isNone := by
  simp only [Condition.truth, hf]
  cases x <;> rfl

theorem selects_isNull : (Condition.isNull f).selects ps (ofRow r) = x.isNone := by
  rw [Condition.selects, truth_isNull hf]
  cases x <;> rfl

theorem selects_isNotNull : (Condition.isNotNull f).selects ps (ofRow r) = x.isSome := by
  simp only [Condition.selects, Condition.truth, hf]
  cases x <;> rfl

variable (hps : ps.getD (n - 1) .null = .time now)
include hps

theorem selects_compare (c : Comparison) :
    (Condition.compare f c (.param n)).selects ps (ofRow r) =
      x.any fun t => c.admits (compare t.rank now.rank) := by
  simp only [Condition.selects, Condition.truth, Operand.value, hf, hps]
  cases x with
  | none => rfl
  | some t => simp [Param.ofOption, compare?]

theorem selects_nullOr (c : Comparison) :
    (Condition.nullOr f c n).selects ps (ofRow r) = x.all fun t => c.admits (compare t.rank now.rank) := by
  rw [Condition.nullOr, selects_or, selects_isNull hf, selects_compare hf hps]
  cases x <;> rfl

end Times

theorem compare_rank (a b : Time) :
    a < b ∧ compare a.rank b.rank = .lt ∨ a = b ∧ compare a.rank b.rank = .eq ∨
      b < a ∧ compare a.rank b.rank = .gt := by
  have hcompare : compare a.rank b.rank =
      if a.rank < b.rank then .lt else if a.rank = b.rank then .eq else .gt := rfl
  rw [hcompare]
  split
  · exact .inl ⟨‹_›, rfl⟩
  · split
    · exact .inr (.inl ⟨Time.rank_injective ‹_›, rfl⟩)
    · refine .inr (.inr ⟨?_, rfl⟩)
      rw [Time.lt_iff]
      omega

theorem admits_lt (a b : Time) : Comparison.lt.admits (compare a.rank b.rank) = decide (a < b) := by
  rcases compare_rank a b with ⟨h, hc⟩ | ⟨h, hc⟩ | ⟨h, hc⟩
  · simp [hc, h, Comparison.admits]
  · simp [h, Comparison.admits, Time.lt_iff]
  · simp [hc, Comparison.admits, Time.not_lt.2 (Time.le_of_lt h)]

theorem admits_gt (a b : Time) : Comparison.gt.admits (compare a.rank b.rank) = decide (b < a) := by
  rcases compare_rank a b with ⟨h, hc⟩ | ⟨h, hc⟩ | ⟨h, hc⟩
  · simp [hc, Comparison.admits, Time.not_lt.2 (Time.le_of_lt h)]
  · simp [h, Comparison.admits, Time.lt_iff]
  · simp [hc, h, Comparison.admits]

theorem admits_le (a b : Time) : Comparison.le.admits (compare a.rank b.rank) = decide (a ≤ b) := by
  rcases compare_rank a b with ⟨h, hc⟩ | ⟨h, hc⟩ | ⟨h, hc⟩
  · simp [hc, Comparison.admits, Time.le_of_lt h]
  · simp [h, Comparison.admits, Time.le_refl]
  · simp [hc, Comparison.admits, Time.not_le.2 h]

theorem admits_ge (a b : Time) : Comparison.ge.admits (compare a.rank b.rank) = decide (b ≤ a) := by
  rcases compare_rank a b with ⟨h, hc⟩ | ⟨h, hc⟩ | ⟨h, hc⟩
  · simp [hc, Comparison.admits, Time.not_le.2 h]
  · simp [h, Comparison.admits, Time.le_refl]
  · simp [hc, Comparison.admits, Time.le_of_lt h]

theorem compare_value (a b : EventId) :
    a < b ∧ compare a.uuid.value b.uuid.value = .lt ∨ a = b ∧ compare a.uuid.value b.uuid.value = .eq ∨
      b < a ∧ compare a.uuid.value b.uuid.value = .gt := by
  have hcompare : compare a.uuid.value b.uuid.value =
      if a.uuid.value < b.uuid.value then .lt else if a.uuid.value = b.uuid.value then .eq else .gt := rfl
  rw [hcompare]
  split
  · exact .inl ⟨‹_›, rfl⟩
  · split
    · exact .inr (.inl ⟨EventId.value_injective ‹_›, rfl⟩)
    · have hlt : b.uuid.value < a.uuid.value := by omega
      exact .inr (.inr ⟨hlt, rfl⟩)

theorem isEq_compare_value (a b : EventId) : (compare a.uuid.value b.uuid.value).isEq = decide (a = b) := by
  rcases compare_value a b with ⟨h, hc⟩ | ⟨h, hc⟩ | ⟨h, hc⟩
  · rw [hc, decide_eq_false fun he => Nat.lt_irrefl _ (he ▸ h)]
    rfl
  · rw [hc, decide_eq_true h]
    rfl
  · rw [hc, decide_eq_false fun he => Nat.lt_irrefl _ (he ▸ h)]
    rfl

theorem selects_ofId {id : EventId} (hps : ps.getD 0 .null = .uuid id.uuid) :
    Condition.ofId.selects ps (ofRow r) = decide (r.id = id) := by
  rw [← isEq_compare_value]
  simp only [Condition.ofId, Condition.selects, Condition.truth, Operand.value, Nat.sub_self, hps, ofRow, compare?]
  cases compare r.id.uuid.value id.uuid.value <;> rfl

theorem compare?_id (r q : Row) : (compare? (ofRow r .id) (ofRow q .id) == some .eq) = decide (q.id = r.id) := by
  rw [decide_eq_decide.2 (eq_comm (a := q.id)), ← isEq_compare_value]
  simp only [ofRow, compare?]
  cases compare r.id.uuid.value q.id.uuid.value <;> rfl

theorem selects_unresolved : Condition.unresolved.selects ps (ofRow r) = !r.isTerminal := by
  rw [Condition.unresolved, selects_and, selects_isNull (x := r.processedAt) rfl,
    selects_isNull (x := r.deadLetteredAt) rfl]
  simp only [Row.isTerminal, Row.isProcessed, Row.isDeadLettered]
  cases r.processedAt <;> cases r.deadLetteredAt <;> rfl

theorem selects_claimable (hps : ps.getD (n - 1) .null = .time now) :
    (Condition.claimable n).selects ps (ofRow r) = r.isClaimable now := by
  rw [Condition.claimable, selects_and, selects_and, selects_unresolved,
    selects_nullOr (x := r.nextAttemptAt) rfl hps, selects_nullOr (x := r.lockedUntil) rfl hps]
  simp only [admits_le, admits_lt, Row.isClaimable, Bool.and_assoc]

theorem state_eq (r : Row) (now : Time) : Outbox.Store.state r now =
    if r.isProcessed then .processed
    else if r.isDeadLettered then .deadLettered
    else if r.lockedUntil.any fun t => decide (now ≤ t) then .leased
    else if r.nextAttemptAt.any fun t => decide (now < t) then .retrying
    else .pending := by
  rw [Outbox.Store.state, Row.isBackingOff, Row.isLeased, Row.isTerminal]
  generalize r.isProcessed = a
  generalize r.isDeadLettered = b
  generalize (r.lockedUntil.any fun t => decide (now ≤ t)) = c
  generalize (r.nextAttemptAt.any fun t => decide (now < t)) = d
  revert a b c d
  decide

def asked (r : Row) (now : Time) : Outbox.Store.State → Bool
  | .processed => r.isProcessed
  | .deadLettered => r.isDeadLettered
  | .leased => !r.isTerminal && r.lockedUntil.any fun t => decide (now ≤ t)
  | .retrying => !r.isTerminal &&
      (!(r.lockedUntil.any fun t => decide (now ≤ t)) && r.nextAttemptAt.any fun t => decide (now < t))
  | .pending => !r.isTerminal &&
      (!(r.lockedUntil.any fun t => decide (now ≤ t)) && !r.nextAttemptAt.any fun t => decide (now < t))

theorem selects_asked (hps : ps.getD 0 .null = .time now) (state : Outbox.Store.State) :
    (Condition.ofState state).selects ps (ofRow r) = asked r now state := by
  cases state with
  | processed => exact selects_isNotNull (x := r.processedAt) rfl
  | deadLettered => exact selects_isNotNull (x := r.deadLetteredAt) rfl
  | leased =>
      rw [Condition.ofState, selects_and, selects_unresolved, selects_compare (x := r.lockedUntil) rfl hps]
      simp only [admits_ge, asked]
  | retrying =>
      rw [Condition.ofState, selects_and, selects_and, selects_unresolved,
        selects_nullOr (x := r.lockedUntil) rfl hps, selects_compare (x := r.nextAttemptAt) rfl hps]
      simp only [admits_lt, admits_gt, Time.all_lt_eq, asked]
  | pending =>
      rw [Condition.ofState, selects_and, selects_and, selects_unresolved,
        selects_nullOr (x := r.lockedUntil) rfl hps, selects_nullOr (x := r.nextAttemptAt) rfl hps]
      simp only [admits_lt, admits_le, Time.all_lt_eq, Time.all_le_eq, asked]

theorem selects_ofState (hps : ps.getD 0 .null = .time now)
    (hend : ¬ (r.isProcessed = true ∧ r.isDeadLettered = true)) (state : Outbox.Store.State) :
    (Condition.ofState state).selects ps (ofRow r) = decide (Outbox.Store.state r now = state) := by
  rw [selects_asked hps, state_eq]
  unfold asked Row.isTerminal
  revert hend
  generalize r.isProcessed = a
  generalize r.isDeadLettered = b
  generalize (r.lockedUntil.any fun t => decide (now ≤ t)) = c
  generalize (r.nextAttemptAt.any fun t => decide (now < t)) = d
  revert a b c d
  cases state <;> decide

theorem precedes_id (r q : Row) : precedes [.id] (ofRow r) (ofRow q) = decide (r.id ≤ q.id) := by
  simp only [precedes, ofRow, compare?]
  rcases compare_value r.id q.id with ⟨h, hc⟩ | ⟨h, hc⟩ | ⟨h, hc⟩
  · have hle : r.id ≤ q.id := Nat.le_of_lt h
    rw [hc, decide_eq_true hle]
  · have hle : r.id ≤ q.id := h ▸ Nat.le_refl _
    rw [hc, decide_eq_true hle]
  · have hle : ¬ r.id ≤ q.id := Nat.not_le_of_lt h
    rw [hc, decide_eq_false hle]

theorem precedes_time {f : Field} {x y : Time} (hr : ofRow r f = .time x) (hq : ofRow q f = .time y) :
    precedes [f, .id] (ofRow r) (ofRow q) = (decide (x < y) || (x == y && decide (r.id ≤ q.id))) := by
  rw [← precedes_id, precedes, hr, hq]
  simp only [compare?]
  rcases compare_rank x y with ⟨h, hc⟩ | ⟨h, hc⟩ | ⟨h, hc⟩
  · simp [hc, h]
  · simp [h, Time.lt_iff]
  · have hne : x ≠ y := fun he => Int.lt_irrefl _ (he ▸ h)
    simp [hc, hne, Time.not_lt.2 (Time.le_of_lt h)]

theorem precedes_oldest (r q : Row) : precedes [.occurredAt, .id] (ofRow r) (ofRow q) = Row.precedes r q :=
  precedes_time rfl rfl

theorem precedes_deadLetters (hr : r.isDeadLettered = true) (hq : q.isDeadLettered = true) :
    precedes [.deadLetteredAt, .id] (ofRow r) (ofRow q) = Outbox.Store.deadLetterPrecedes r q := by
  obtain ⟨x, hx⟩ := Option.isSome_iff_exists.1 hr
  obtain ⟨y, hy⟩ := Option.isSome_iff_exists.1 hq
  rw [precedes_time (x := x) (y := y) (by simp only [ofRow, hx, Param.ofOption])
    (by simp only [ofRow, hy, Param.ofOption]), Outbox.Store.deadLetterPrecedes, hx, hy]

end Outbox.Postgres.Sql
