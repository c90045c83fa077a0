import Outbox.Proofs.Postgres.Sql

namespace Outbox.Postgres

namespace Sql

namespace Condition

def ofId : Condition := .compare .id .eq (.param 1)

def unresolved : Condition := .and (.isNull .processedAt) (.isNull .deadLetteredAt)

def nullOr (f : Field) (c : Comparison) (n : Nat) : Condition := .or (.isNull f) (.compare f c (.param n))

def claimable (n : Nat) : Condition :=
  .and unresolved (.and (nullOr .nextAttemptAt .le n) (nullOr .lockedUntil .lt n))

def ofState : Outbox.Store.State → Condition
  | .processed => .isNotNull .processedAt
  | .deadLettered => .isNotNull .deadLetteredAt
  | .leased => .and unresolved (.compare .lockedUntil .ge (.param 1))
  | .retrying => .and unresolved (.and (nullOr .lockedUntil .lt 1) (.compare .nextAttemptAt .gt (.param 1)))
  | .pending => .and unresolved (.and (nullOr .lockedUntil .lt 1) (nullOr .nextAttemptAt .le 1))

end Condition

def candidates (now limit : Nat) (lock : Option Lock) : Query :=
  ⟨[.id], .claimable now, [.occurredAt, .id], some limit, lock⟩

def free : List (Field × Operand) := [(.lockedBy, .null), (.lockedUntil, .null)]

end Sql

open Sql

namespace Statement

def work? : Statement → Option Work
  | .insert _ =>
    some (.insert [.id, .occurredAt, .createdAt, .type, .payload, .correlationId, .aggregateId, .key, .attempts])
  | .selectCandidates .. => some (.select (candidates 1 2 none))
  | .lease .. =>
    some (.update [(.lockedBy, .param 2), (.lockedUntil, .param 3)] (.where (.and .ofId (.claimable 4))) Field.all)
  | .leaseBatch .. =>
    some (.update [(.lockedBy, .param 1), (.lockedUntil, .param 2)] (.idIn (candidates 3 4 (some .skipLocked)))
      Field.all)
  | .markProcessed .. =>
    some (.update ([(.processedAt, .param 2), (.error, .null)] ++ free) (.where (.and .ofId .unresolved)) [])
  | .probe _ => some (.present .ofId)
  | .lockForFailure _ =>
    some (.select ⟨[.attempts, .processedAt, .deadLetteredAt], .ofId, [], none, some .forUpdate⟩)
  | .markFailed .. =>
    some (.update ([(.attempts, .param 2), (.error, .param 3), (.nextAttemptAt, .param 4),
      (.deadLetteredAt, .param 5)] ++ free) (.where .ofId) [])
  | .select _ => some (.select ⟨Field.all, .ofId, [], none, none⟩)
  | .selectDeadLetters _ =>
    some (.select ⟨Field.all, .isNotNull .deadLetteredAt, [.deadLetteredAt, .id], some 1, none⟩)
  | .requeue _ =>
    some (.update ([(.attempts, .zero), (.deadLetteredAt, .null), (.nextAttemptAt, .null)] ++ free)
      (.where (.and .ofId (.isNotNull .deadLetteredAt))) Field.all)
  | .purge _ => some (.delete (.and (.isNotNull .processedAt) (.compare .processedAt .lt (.param 1))))
  | .countStates _ =>
    some (.count ([.processed, .deadLettered, .leased, .retrying, .pending].map fun state => (state, .ofState state)))
  | _ => none

def command? : Statement → Option Command
  | .beginTransaction => some .begin
  | .commit => some .commit
  | .rollback => some .rollback
  | s => s.work?.map .work

end Statement

namespace Sql

/-- Each statement says what its command says, word for word. -/
theorem words_sql {s : Statement} {c : Command} (h : s.command? = some c) : words s.sql = c.words := by
  cases s <;> cases h
  all_goals
    apply words_ofList
    · -- the characters of the text, piece by piece
      unfold Statement.sql
      dsimp only [Statement.claimable, Statement.counting, Statement.unresolved, Statement.oldestFirst,
        Statement.columns]
      repeat' first | with_reducible exact rfl | with_reducible apply append_ofList
    · decide +kernel

theorem tableWords_migration : tableWords <:+: words Statement.migration := by
  apply infix_words_ofList
  · unfold Statement.migration
    repeat' first | with_reducible exact rfl | with_reducible apply append_ofList
  · decide +kernel

end Sql

end Outbox.Postgres
