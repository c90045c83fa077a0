import Outbox.Log
import Outbox.Postgres.Reply
import Outbox.Postgres.Statement

namespace Outbox.Postgres

/-- A program that logs and sends statements. It goes on with the reply to each that it asks, and
without one where it only posts it. -/
inductive Dialogue (α : Type) where
  | done (a : α)
  | say (e : LogEvent) (rest : Dialogue α)
  | post (s : Statement) (rest : Dialogue α)
  | ask (s : Statement) (next : Reply → Dialogue α)

namespace Dialogue

variable {α β : Type}

def bind (f : α → Dialogue β) : Dialogue α → Dialogue β
  | .done a => f a
  | .say e rest => .say e (bind f rest)
  | .post s rest => .post s (bind f rest)
  | .ask s next => .ask s fun r => bind f (next r)

instance : Monad Dialogue where
  pure := .done
  bind d f := d.bind f

instance : LawfulMonad Dialogue := LawfulMonad.mk' Dialogue
  (fun d => by
    show d.bind (fun a => .done a) = d
    induction d with
    | done a => rfl
    | say e rest ih => simp [bind, ih]
    | post s rest ih => simp [bind, ih]
    | ask s next ih => simp [bind, ih])
  (fun _ _ => rfl)
  (fun d f g => by
    show (d.bind f).bind g = d.bind fun a => (f a).bind g
    induction d with
    | done a => rfl
    | say e rest ih => simp [bind, ih]
    | post s rest ih => simp [bind, ih]
    | ask s next ih => simp [bind, ih])

def send (s : Statement) : Dialogue Reply := .ask s .done

def leave (s : Statement) : Dialogue Unit := .post s (.done ())

def log (e : LogEvent) : Dialogue Unit := .say e (.done ())

def within (span : LogSpan) : Dialogue α → Dialogue α
  | .done a => .done a
  | .say e rest => .say (e.within span) (rest.within span)
  | .post s rest => .post s (rest.within span)
  | .ask s next => .ask s fun r => (next r).within span

variable {m : Type → Type} [Monad m] (answer : Statement → m Reply) (take : Statement → m Unit)
  (hear : LogEvent → m Unit)

def perform : Dialogue α → m α
  | .done a => pure a
  | .say e rest => do
    hear e
    perform rest
  | .post s rest => do
    take s
    perform rest
  | .ask s next => do perform (next (← answer s))

theorem perform_bind [LawfulMonad m] (d : Dialogue α) (f : α → Dialogue β) :
    (d.bind f).perform answer take hear =
      d.perform answer take hear >>= fun a => (f a).perform answer take hear := by
  induction d with
  | done a => simp [bind, perform]
  | say e rest ih => simp [bind, perform, ih]
  | post s rest ih => simp [bind, perform, ih]
  | ask s next ih => simp [bind, perform, ih]

theorem perform_within (span : LogSpan) (d : Dialogue α) :
    (d.within span).perform answer take hear = d.perform answer take fun e => hear (e.within span) := by
  induction d with
  | done a => rfl
  | say e rest ih => simp only [within, perform, ih]
  | post s rest ih => simp only [within, perform, ih]
  | ask s next ih => simp only [within, perform, ih]

end Dialogue

/-- A pool of connections tests one that is given back, and gives it up if a statement posted on it failed. -/
def poolTarget : String := "sqlx_core::pool::connection"

def releaseEvent (e : Failure) : LogEvent :=
  .of .warn poolTarget "error occurred while testing the connection on-release" [("error", .shown e.message)]

abbrev Session := ExceptT StoreError Dialogue

end Outbox.Postgres
