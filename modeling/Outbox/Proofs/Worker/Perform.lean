import Outbox.Proofs.Worker.Deed

namespace Outbox

namespace Program

section Perform

variable {m : Type → Type} [Monad m] {α β ε : Type}

def perform (b : Backend m) : Program α → m α
  | .done a => pure a
  | .now next => b.now >>= fun t => (next t).perform b
  | .claim take worker lease t next => b.claim take worker lease t >>= fun x => (next x).perform b
  | .publish message next => b.publish message >>= fun x => (next x).perform b
  | .markProcessed id t next => b.markProcessed id t >>= fun x => (next x).perform b
  | .markFailed id error t policy next => b.markFailed id error t policy >>= fun x => (next x).perform b
  | .log e next => b.log e >>= fun _ => next.perform b

variable [LawfulMonad m] (b : Backend m)

theorem perform_bind (p : Program α) (f : α → Program β) :
    (p.bind f).perform b = p.perform b >>= fun a => (f a).perform b := by
  induction p with
  | done a => simp [bind, perform]
  | log e next ih => simp [bind, perform, ih]
  | now next ih | claim take worker lease t next ih | publish message next ih | markProcessed id t next ih
  | markFailed id error t policy next ih => simp [bind, perform, ih]

theorem perform_exceptBind {x : ExceptT ε Program α} {y : ExceptT ε m α} {f : α → ExceptT ε Program β}
    {g : α → ExceptT ε m β} (hx : x.run.perform b = y.run) (hf : ∀ a, (f a).run.perform b = (g a).run) :
    (x >>= f).run.perform b = (y >>= g).run := by
  rw [ExceptT.run_bind]
  refine (perform_bind b x.run _).trans ?_
  rw [hx]
  refine congrArg (y.run >>= ·) (funext fun result => ?_)
  cases result with
  | ok a => exact hf a
  | error e => rfl

theorem perform_lift {x : Program α} {y : m α} (hx : x.perform b = y) :
    (ExceptT.lift x : ExceptT ε Program α).run.perform b = (ExceptT.lift y : ExceptT ε m α).run := by
  rw [ExceptT.run_lift, ExceptT.run_lift, ← hx]
  refine (perform_bind b x _).trans ?_
  rw [map_eq_pure_bind]
  rfl

end Perform

end Program

/-- What a backend does on the way from one state to another, with its answers. -/
inductive Backend.Does {σ : Type} (b : Backend (StateM σ)) : σ → List Deed → σ → Prop
  | rest (w : σ) : Does b w [] w
  | now {w v : σ} {ds : List Deed} (h : Does b (b.now w).2 ds v) : Does b w ds v
  | claim {w v : σ} {ds : List Deed} (take : Nat) (worker : String) (lease : Duration) (t : Time)
      (h : Does b (b.claim take worker lease t w).2 ds v) :
      Does b w (.claim take worker lease t (b.claim take worker lease t w).1 :: ds) v
  | publish {w v : σ} {ds : List Deed} (m : Message) (h : Does b (b.publish m w).2 ds v) :
      Does b w (.publish m (b.publish m w).1 :: ds) v
  | markProcessed {w v : σ} {ds : List Deed} (id : EventId) (t : Time) (h : Does b (b.markProcessed id t w).2 ds v) :
      Does b w (.markProcessed id t (b.markProcessed id t w).1 :: ds) v
  | markFailed {w v : σ} {ds : List Deed} (id : EventId) (error : String) (t : Time) (policy : RetryPolicy)
      (h : Does b (b.markFailed id error t policy w).2 ds v) :
      Does b w (.markFailed id error t policy (b.markFailed id error t policy w).1 :: ds) v
  | log {w v : σ} {ds : List Deed} (e : LogEvent) (h : Does b (b.log e w).2 ds v) : Does b w ds v

namespace Backend.Does

variable {σ : Type} {b : Backend (StateM σ)} {w v : σ} {ds : List Deed}

theorem claim_answer {take : Nat} {worker : String} {lease : Duration} {t : Time}
    {x : Except Interruption (List Row)} (h : b.Does w ds v) (hx : .claim take worker lease t x ∈ ds) :
    ∃ w', (b.claim take worker lease t w').1 = x := by
  induction h with
  | rest => cases hx
  | now _ ih | log _ _ ih => exact ih hx
  | @claim w _ _ take worker lease t _ ih =>
      cases hx with
      | head => exact ⟨w, rfl⟩
      | tail _ hx => exact ih hx
  | publish _ _ ih | markProcessed _ _ _ ih | markFailed _ _ _ _ _ ih =>
      cases hx with
      | tail _ hx => exact ih hx

theorem publish_answer {m : Message} {x : Except Abort (Except PublishError Unit)} (h : b.Does w ds v)
    (hx : .publish m x ∈ ds) : ∃ w', (b.publish m w').1 = x := by
  induction h with
  | rest => cases hx
  | now _ ih | log _ _ ih => exact ih hx
  | @publish w _ _ m _ ih =>
      cases hx with
      | head => exact ⟨w, rfl⟩
      | tail _ hx => exact ih hx
  | claim _ _ _ _ _ ih | markProcessed _ _ _ ih | markFailed _ _ _ _ _ ih =>
      cases hx with
      | tail _ hx => exact ih hx

end Backend.Does

theorem Program.Tells.perform {σ α : Type} {b : Backend (StateM σ)} {post : List Deed → α → Prop} {p : Program α}
    (h : p.Tells post) (w : σ) : ∃ ds, b.Does w ds (p.perform b w).2 ∧ post ds (p.perform b w).1 := by
  induction p generalizing post w with
  | done a => exact ⟨[], .rest w, h⟩
  | now next ih =>
      obtain ⟨ds, hdoes, hpost⟩ := ih _ (h _) (b.now w).2
      exact ⟨ds, .now hdoes, hpost⟩
  | claim take worker lease t next ih =>
      obtain ⟨ds, hdoes, hpost⟩ := ih _ (h _) (b.claim take worker lease t w).2
      exact ⟨_, .claim take worker lease t hdoes, hpost⟩
  | publish m next ih =>
      obtain ⟨ds, hdoes, hpost⟩ := ih _ (h _) (b.publish m w).2
      exact ⟨_, .publish m hdoes, hpost⟩
  | markProcessed id t next ih =>
      obtain ⟨ds, hdoes, hpost⟩ := ih _ (h _) (b.markProcessed id t w).2
      exact ⟨_, .markProcessed id t hdoes, hpost⟩
  | markFailed id error t policy next ih =>
      obtain ⟨ds, hdoes, hpost⟩ := ih _ (h _) (b.markFailed id error t policy w).2
      exact ⟨_, .markFailed id error t policy hdoes, hpost⟩
  | log e next ih =>
      obtain ⟨ds, hdoes, hpost⟩ := ih h (b.log e w).2
      exact ⟨ds, .log e hdoes, hpost⟩

namespace Worker

open Program

variable {m : Type → Type} [Monad m] [LawfulMonad m] (s : Settings) (b : Backend m) (r : Row)

omit [LawfulMonad m] in
theorem perform_resolveDelivered (listening : Bool) :
    (resolveDelivered s r (backend listening)).perform b = resolveDelivered s r b := by
  refine congrArg (b.now >>= ·) (funext fun t => ?_)
  refine congrArg (b.markProcessed r.id t >>= ·) (funext fun x => ?_)
  cases x with
  | ok => exact congrArg (b.log _ >>= ·) rfl
  | error e => exact congrArg (b.log _ >>= ·) rfl

omit [LawfulMonad m] in
theorem perform_resolveFailed (listening : Bool) (error : String) :
    (resolveFailed s r (backend listening) error).perform b = resolveFailed s r b error := by
  refine congrArg (b.now >>= ·) (funext fun t => ?_)
  refine congrArg (b.markFailed r.id error t s.retry >>= ·) (funext fun x => ?_)
  match x with
  | .ok (.retrying attempts next) => exact congrArg (b.log _ >>= ·) rfl
  | .ok (.deadLettered attempts) => exact congrArg (b.log _ >>= ·) rfl
  | .ok .unchanged => rfl
  | .error e => exact congrArg (b.log _ >>= ·) rfl

theorem perform_deliver (listening : Bool) :
    (deliver s r (backend listening)).run.perform b = (deliver s r b).run := by
  unfold deliver
  cases r.message? s.topic with
  | error e => rfl
  | ok message =>
      refine perform_exceptBind b ?_ fun _ => rfl
      exact (bind_pure _)

theorem perform_warn (error : String) :
    (warn s r (backend b.hearsWarnings) error).run.perform b = (warn s r b error).run := by
  unfold warn
  change (ite (b.hearsWarnings = true) _ _ : ExceptT Abort Program Unit).run.perform b = _
  split
  · split
    · rfl
    · exact perform_lift b (bind_pure _)
  · rfl

theorem perform_dispatch :
    (dispatch s r (backend b.hearsWarnings)).run.perform b = (dispatch s r b).run := by
  refine perform_exceptBind b (perform_deliver s b r _) fun x => ?_
  cases x with
  | ok => exact perform_lift b (perform_resolveDelivered s b r _)
  | error e =>
      refine perform_exceptBind b (perform_warn s b r e.message) fun _ => ?_
      exact perform_lift b (perform_resolveFailed s b r _ _)

theorem perform_dispatchAll (rows : List Row) (report : Report) :
    (dispatchAll s (backend b.hearsWarnings) rows report).run.perform b = (dispatchAll s b rows report).run := by
  induction rows generalizing report with
  | nil => rfl
  | cons r rows ih => exact perform_exceptBind b (perform_dispatch s b r) fun x => ih (report.count x)

theorem perform_iteration : (iteration s b.hearsWarnings).perform b = (runOnce s b).run := by
  refine perform_exceptBind b (perform_lift b (bind_pure _)) fun t => ?_
  refine perform_exceptBind b (bind_pure _) fun batch => ?_
  split
  · rfl
  · refine perform_exceptBind b (perform_lift b (bind_pure _)) fun _ => ?_
    refine (perform_bind b _ _).trans ?_
    refine (congrArg (· >>= _) (perform_dispatchAll s b batch _)).trans ?_
    exact (map_eq_pure_bind ..).symm

theorem iteration_does {σ : Type} (s : Settings) (b : Backend (StateM σ)) (w : σ) :
    ∃ ds, b.Does w ds ((runOnce s b).run w).2 ∧ Iterates s b.hearsWarnings ds ((runOnce s b).run w).1 := by
  have htells : (iteration s b.hearsWarnings).Tells (Iterates s b.hearsWarnings) := iteration_tells
  obtain ⟨ds, hdoes, hiterates⟩ := htells.perform (b := b) w
  rw [perform_iteration] at hdoes hiterates
  exact ⟨ds, hdoes, hiterates⟩

end Worker

end Outbox
