import Outbox.Proofs.Envelope

namespace Outbox

/-- A piece of a worker's work as what it asks of its backend, one question after another, each with
what it goes on to do for every answer. -/
inductive Program (α : Type) : Type
  | done (a : α)
  | now (next : Time → Program α)
  | claim (take : Nat) (worker : String) (lease : Duration) (now : Time)
      (next : Except Interruption (List Row) → Program α)
  | publish (m : Message) (next : Except Abort (Except PublishError Unit) → Program α)
  | markProcessed (id : EventId) (now : Time) (next : Except StoreError Unit → Program α)
  | markFailed (id : EventId) (error : String) (now : Time) (policy : RetryPolicy)
      (next : Except StoreError FailureOutcome → Program α)
  | log (e : LogEvent) (next : Program α)

namespace Program

variable {α β : Type}

def bind : Program α → (α → Program β) → Program β
  | .done a, f => f a
  | .now next, f => .now fun t => (next t).bind f
  | .claim take worker lease t next, f => .claim take worker lease t fun x => (next x).bind f
  | .publish m next, f => .publish m fun x => (next x).bind f
  | .markProcessed id t next, f => .markProcessed id t fun x => (next x).bind f
  | .markFailed id error t policy next, f => .markFailed id error t policy fun x => (next x).bind f
  | .log e next, f => .log e (next.bind f)

instance : Monad Program where
  pure := .done
  bind := bind

def backend (listening : Bool) : Backend Program where
  now := .now .done
  claim take worker lease now := .claim take worker lease now .done
  publish m := .publish m .done
  markProcessed id now := .markProcessed id now .done
  markFailed id error now policy := .markFailed id error now policy .done
  log e := .log e (.done ())
  hearsWarnings := listening

def iteration (s : Settings) (listening : Bool) : Program (Except Interruption Report) :=
  (Worker.runOnce s (backend listening)).run

end Program

/-- What a worker has in hand: rows that it has claimed and not dispatched yet, and before these
perhaps one whose message was accepted or rejected and which it has not resolved yet. -/
inductive Hand
  | holding (rows : List Row)
  | accepted (r : Row) (rows : List Row)
  | rejected (r : Row) (rows : List Row)

namespace Hand

def rows : Hand → List Row
  | .holding rows => rows
  | .accepted r rows | .rejected r rows => r :: rows

def IsSettled : Hand → Prop
  | .accepted .. => False
  | _ => True

end Hand

namespace Program

variable {α β : Type}

/-- What a program does to the rows in hand, up to its result: it claims with empty hands, publishes the
first row, and resolves that row as its message fared before it goes on to the next. -/
def Follows (post : α → Hand → Prop) : Hand → Program α → Prop
  | h, .done a => post a h
  | h, .now next => ∀ t, Follows post h (next t)
  | h, .claim _ _ _ _ next =>
    h = .holding [] ∧ (∀ batch, Follows post (.holding batch) (next (.ok batch))) ∧
      ∀ e, Follows post (.holding []) (next (.error e))
  | h, .publish m next =>
    ∃ r rows, h = .holding (r :: rows) ∧ r.message? m.topic = .ok m ∧
      Follows post (.accepted r rows) (next (.ok (.ok ()))) ∧
      (∀ e, Follows post (.rejected r rows) (next (.ok (.error e)))) ∧
      ∀ a, Follows post (.rejected r rows) (next (.error a))
  | h, .markProcessed id _ next =>
    ∃ r rows, h = .accepted r rows ∧ id = r.id ∧ ∀ x, Follows post (.holding rows) (next x)
  | h, .markFailed id _ _ _ next =>
    ∃ r rows, (h = .holding (r :: rows) ∨ h = .rejected r rows) ∧ id = r.id ∧
      ∀ x, Follows post (.holding rows) (next x)
  | h, .log _ next => Follows post h next

theorem follows_bind {mid : α → Hand → Prop} {post : β → Hand → Prop} {f : α → Program β} {h : Hand} {p : Program α}
    (hp : Follows mid h p) (hf : ∀ a h, mid a h → Follows post h (f a)) : Follows post h (p.bind f) := by
  induction p generalizing h with
  | done a => exact hf a h hp
  | now next ih => exact fun t => ih t (hp t)
  | claim take worker lease t next ih =>
      obtain ⟨rfl, hok, herror⟩ := hp
      exact ⟨rfl, fun batch => ih _ (hok batch), fun e => ih _ (herror e)⟩
  | publish m next ih =>
      obtain ⟨r, rows, rfl, hm, hok, herror, habort⟩ := hp
      exact ⟨r, rows, rfl, hm, ih _ hok, fun e => ih _ (herror e), fun a => ih _ (habort a)⟩
  | markProcessed id t next ih =>
      obtain ⟨r, rows, rfl, rfl, hnext⟩ := hp
      exact ⟨r, rows, rfl, rfl, fun x => ih x (hnext x)⟩
  | markFailed id error t policy next ih =>
      obtain ⟨r, rows, hh, rfl, hnext⟩ := hp
      exact ⟨r, rows, hh, rfl, fun x => ih x (hnext x)⟩
  | log e next ih => exact ih hp

theorem follows_exceptBind {ε : Type} {mid : Except ε α → Hand → Prop} {post : Except ε β → Hand → Prop}
    {x : ExceptT ε Program α} {f : α → ExceptT ε Program β} {h : Hand} (hx : Follows mid h x.run)
    (hok : ∀ a h, mid (.ok a) h → Follows post h (f a).run) (herror : ∀ e h, mid (.error e) h → post (.error e) h) :
    Follows post h (x >>= f).run := by
  refine follows_bind hx ?_
  rintro (e | a) h' hmid
  · exact herror e h' hmid
  · exact hok a h' hmid

end Program

namespace Worker

open Program

variable (s : Settings) (r : Row) (rows : List Row) (listening : Bool)

def Dispatched {α : Type} (rows : List Row) : Except Abort α → Hand → Prop
  | .ok _, h => h = .holding rows
  | .error _, h => h.IsSettled

theorem resolveDelivered_follows :
    Follows (fun _ h => h = .holding rows) (.accepted r rows) (resolveDelivered s r (backend listening)) := by
  intro t
  refine ⟨r, rows, rfl, rfl, ?_⟩
  rintro (e | _)
  · exact rfl
  · exact rfl

theorem resolveFailed_follows (error : String) {h : Hand} (hh : h = .holding (r :: rows) ∨ h = .rejected r rows) :
    Follows (fun _ h => h = .holding rows) h (resolveFailed s r (backend listening) error) := by
  intro t
  refine ⟨r, rows, hh, rfl, ?_⟩
  rintro (e | _ | _ | _)
  · exact rfl
  · exact rfl
  · exact rfl
  · exact rfl

theorem warn_follows (error : String) (h : Hand) :
    Follows (fun _ h' => h' = h) h (warn s r (backend listening) error).run := by
  cases listening with
  | false => exact rfl
  | true =>
      by_cases ha : r.attempts = 0xFFFFFFFF
      · simp [warn, ha]
        exact rfl
      · simp [warn, ha]
        exact rfl

def Delivered : Except Abort (Except DeliveryError Unit) → Hand → Prop
  | .ok (.ok ()), h => h = .accepted r rows
  | .ok (.error _), h => h = .holding (r :: rows) ∨ h = .rejected r rows
  | .error _, h => h.IsSettled

theorem deliver_follows :
    Follows (Delivered r rows) (.holding (r :: rows)) (deliver s r (backend listening)).run := by
  cases hm : r.message? s.topic with
  | error e =>
      simp only [deliver, hm]
      exact .inl rfl
  | ok m =>
      simp only [deliver, hm]
      obtain ⟨e, he, rfl⟩ := Row.message?_eq_ok hm
      exact ⟨r, rows, rfl, hm, rfl, fun _ => .inr rfl, fun _ => trivial⟩

theorem dispatch_follows :
    Follows (Dispatched rows) (.holding (r :: rows)) (dispatch s r (backend listening)).run := by
  refine follows_exceptBind (deliver_follows s r rows listening) ?_ fun _ _ h => h
  rintro (e | _) h hh
  · refine follows_exceptBind (warn_follows s r listening e.message h) ?_ ?_
    · rintro ⟨⟩ h' rfl
      refine follows_bind (resolveFailed_follows s r rows listening e.message hh) ?_
      rintro x h' rfl
      exact rfl
    · rintro a h' rfl
      rcases hh with rfl | rfl <;> exact trivial
  · cases hh
    refine follows_bind (resolveDelivered_follows s r rows listening) ?_
    rintro x h' rfl
    exact rfl

theorem dispatchAll_follows (report : Report) :
    Follows (Dispatched []) (.holding rows) (dispatchAll s (backend listening) rows report).run := by
  induction rows generalizing report with
  | nil => exact rfl
  | cons r rows ih =>
      refine follows_exceptBind (dispatch_follows s r rows listening) ?_ fun _ _ h => h
      rintro x h rfl
      exact ih (report.count x)

def Ended : Except Interruption Report → Hand → Prop
  | .error (.aborted _), h => h.IsSettled
  | _, h => h = .holding []

theorem iteration_follows : Follows Ended (.holding []) (iteration s listening) := by
  intro t
  refine ⟨rfl, ?_, ?_⟩
  · intro batch
    cases batch with
    | nil => exact rfl
    | cons r rows =>
        change Follows Ended (.holding (r :: rows))
          (.log (claimedEvent s (r :: rows).length)
            ((dispatchAll s (backend listening) (r :: rows) (.ofClaimed (r :: rows).length)).run.bind
              fun x => .done (x.mapError Interruption.aborted)))
        refine follows_bind (dispatchAll_follows s (r :: rows) listening _) ?_
        rintro (a | report) h hh
        · exact hh
        · exact hh
  · rintro (e | a)
    · exact rfl
    · exact trivial

end Worker

end Outbox
