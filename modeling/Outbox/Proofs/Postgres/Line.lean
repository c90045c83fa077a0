import Outbox.Postgres.UnitOfWork

namespace Outbox.Postgres

inductive Exchange
  | asked (s : Statement) (r : Reply)
  | left (s : Statement)

/-- A server of any kind: its reply to a statement, after all that went over the line before. -/
abbrev Peer := List Exchange → Statement → Reply

namespace Peer

variable {α β ε : Type} (p : Peer)

def answer (s : Statement) : StateM (List Exchange) Reply := fun line => (p line s, line ++ [.asked s (p line s)])

def take (s : Statement) : StateM (List Exchange) Unit := fun line => ((), line ++ [.left s])

def hold : Dialogue α → StateM (List Exchange) α := Dialogue.perform p.answer take fun _ => pure ()

def run (x : ExceptT ε Dialogue α) (line : List Exchange) : Except ε α × List Exchange := p.hold x.run line

theorem hold_bind (d : Dialogue α) (f : α → Dialogue β) (line : List Exchange) :
    p.hold (d.bind f) line = p.hold (f (p.hold d line).1) (p.hold d line).2 := by
  unfold hold
  rw [Dialogue.perform_bind]
  rfl

theorem hold_within (span : LogSpan) (d : Dialogue α) (line : List Exchange) :
    p.hold (d.within span) line = p.hold d line := by
  unfold hold
  rw [Dialogue.perform_within]

theorem run_pure (a : α) (line : List Exchange) : p.run (pure a : ExceptT ε Dialogue α) line = (.ok a, line) := rfl

theorem run_bind (x : ExceptT ε Dialogue α) (f : α → ExceptT ε Dialogue β) (line : List Exchange) :
    p.run (x >>= f) line = match p.run x line with
      | (.ok a, line') => p.run (f a) line'
      | (.error e, line') => (.error e, line') := by
  unfold run
  rw [ExceptT.run_bind]
  refine (p.hold_bind x.run _ line).trans ?_
  cases p.hold x.run line with
  | mk result line' => cases result <;> rfl

theorem run_bind_congr (x : ExceptT ε Dialogue α) {f g : α → ExceptT ε Dialogue β}
    (h : ∀ a line, p.run (f a) line = p.run (g a) line) (line : List Exchange) :
    p.run (x >>= f) line = p.run (x >>= g) line := by
  rw [run_bind, run_bind]
  cases p.run x line with
  | mk result line' =>
      cases result with
      | ok a => exact h a line'
      | error e => rfl

theorem run_tryCatch (x : ExceptT ε Dialogue α) (f : ε → ExceptT ε Dialogue α) (line : List Exchange) :
    p.run (tryCatch x f) line = match p.run x line with
      | (.ok a, line') => (.ok a, line')
      | (.error e, line') => p.run (f e) line' := by
  unfold run
  rw [ExceptT.run_tryCatch]
  refine (p.hold_bind x.run _ line).trans ?_
  cases p.hold x.run line with
  | mk result line' => cases result <;> rfl

theorem run_orAbandon (y : Session α) (line : List Exchange) :
    p.run (Session.orAbandon y) line = match p.run y line with
      | (.ok a, line') => (.ok a, line')
      | (.error e, line') => (.error e, line' ++ [.left .rollback]) := by
  refine (p.run_tryCatch y _ line).trans ?_
  cases p.run y line with
  | mk result line' => cases result <;> rfl

theorem run_abandon (line : List Exchange) : p.run Session.abandon line = (.ok (), line ++ [.left .rollback]) := rfl

theorem run_orAbandon_bind (y : Session α) (f : α → Session β) (line : List Exchange) :
    p.run (Session.orAbandon y >>= fun a => Session.orAbandon (f a)) line =
      p.run (Session.orAbandon (y >>= f)) line := by
  rw [run_bind, run_orAbandon, run_orAbandon, run_bind]
  cases p.run y line with
  | mk result line' =>
      cases result with
      | ok a => exact p.run_orAbandon (f a) line'
      | error e => rfl

theorem run_logged (span : LogSpan) (y : Session α) (line : List Exchange) :
    p.run (Session.logged span y) line = p.run y line := by
  refine (p.hold_within span _ line).trans ((p.run_tryCatch y _ line).trans ?_)
  cases p.run y line with
  | mk result line' => cases result <;> rfl

theorem run_ofExcept (r : Except StoreError α) (line : List Exchange) :
    p.run (Session.ofExcept r) line = (r, line) := rfl

theorem run_ask (s : Statement) (line : List Exchange) :
    p.run (ExceptT.lift (Dialogue.send s) : Session Reply) line = (.ok (p line s), line ++ [.asked s (p line s)]) := rfl

variable {p} {s : Statement} {line : List Exchange}

theorem run_send_ok (operation : String) {result : Result} (h : p line s = .ok result) :
    p.run (Session.send operation s) line = (.ok result, line ++ [.asked s (.ok result)]) := by
  rw [Session.send, run_bind, run_ask, h]
  rfl

theorem run_send_error (operation : String) {e : Failure} (h : p line s = .error e) :
    p.run (Session.send operation s) line = (.error (e.toStoreError operation), line ++ [.asked s (.error e)]) := by
  rw [Session.send, run_bind, run_ask, h]
  rfl

end Peer

end Outbox.Postgres
