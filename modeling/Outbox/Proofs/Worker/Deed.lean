import Outbox.Proofs.Worker.Program

namespace Outbox

/-- A question to the store or to the publisher, with its answer. -/
inductive Deed
  | claim (take : Nat) (worker : String) (lease : Duration) (now : Time) (answer : Except Interruption (List Row))
  | publish (m : Message) (answer : Except Abort (Except PublishError Unit))
  | markProcessed (id : EventId) (now : Time) (answer : Except StoreError Unit)
  | markFailed (id : EventId) (error : String) (now : Time) (policy : RetryPolicy)
      (answer : Except StoreError FailureOutcome)

namespace Program

variable {α β : Type}

/-- However a program comes to its end, what it has done and its result are of a kind. -/
def Tells : (List Deed → α → Prop) → Program α → Prop
  | post, .done a => post [] a
  | post, .now next => ∀ t, Tells post (next t)
  | post, .claim take worker lease t next => ∀ x, Tells (fun ds => post (.claim take worker lease t x :: ds)) (next x)
  | post, .publish m next => ∀ x, Tells (fun ds => post (.publish m x :: ds)) (next x)
  | post, .markProcessed id t next => ∀ x, Tells (fun ds => post (.markProcessed id t x :: ds)) (next x)
  | post, .markFailed id error t policy next =>
    ∀ x, Tells (fun ds => post (.markFailed id error t policy x :: ds)) (next x)
  | post, .log _ next => Tells post next

theorem tells_bind {post : List Deed → β → Prop} {f : α → Program β} {p : Program α}
    (h : p.Tells fun ds a => (f a).Tells fun ds' => post (ds ++ ds')) : (p.bind f).Tells post := by
  induction p generalizing post with
  | done a => exact h
  | now next ih => exact fun t => ih t (h t)
  | claim take worker lease t next ih => exact fun x => ih x (h x)
  | publish m next ih => exact fun x => ih x (h x)
  | markProcessed id t next ih => exact fun x => ih x (h x)
  | markFailed id error t policy next ih => exact fun x => ih x (h x)
  | log e next ih => exact ih h

theorem Tells.mono {post post' : List Deed → α → Prop} {p : Program α} (h : p.Tells post)
    (hpost : ∀ ds a, post ds a → post' ds a) : p.Tells post' := by
  induction p generalizing post post' with
  | done a => exact hpost [] a h
  | now next ih => exact fun t => ih t (h t) hpost
  | claim take worker lease t next ih => exact fun x => ih x (h x) fun ds => hpost _
  | publish m next ih => exact fun x => ih x (h x) fun ds => hpost _
  | markProcessed id t next ih => exact fun x => ih x (h x) fun ds => hpost _
  | markFailed id error t policy next ih => exact fun x => ih x (h x) fun ds => hpost _
  | log e next ih => exact ih h hpost

theorem tells_exceptBind {ε : Type} {post : List Deed → Except ε β → Prop} {x : ExceptT ε Program α}
    {f : α → ExceptT ε Program β} (h : x.run.Tells fun ds result =>
      match result with
      | .ok a => (f a).run.Tells fun ds' => post (ds ++ ds')
      | .error e => post ds (.error e)) : (x >>= f).run.Tells post := by
  refine tells_bind (h.mono ?_)
  rintro ds (e | a) hresult
  · change post (ds ++ []) (.error e)
    rwa [List.append_nil]
  · exact hresult

end Program

def Resolution.ofMark : Except StoreError Unit → Resolution
  | .ok () => .published
  | .error _ => .unwritten

def Resolution.ofFailure : Except StoreError FailureOutcome → Resolution
  | .ok (.retrying ..) => .retried
  | .ok (.deadLettered _) => .deadLettered
  | .ok .unchanged => .unchanged
  | .error _ => .unwritten

namespace Worker

open Program

variable (s : Settings) (listening : Bool)

inductive Delivers (r : Row) : List Deed → Except Abort (Except DeliveryError Unit) → Prop
  | unwritten (e : EncodingError) (hm : r.message? s.topic = .error e) : Delivers r [] (.ok (.error (.encoding e)))
  | published (m : Message) (answer : Except Abort (Except PublishError Unit)) (hm : r.message? s.topic = .ok m) :
      Delivers r [.publish m answer] (answer.map (·.mapError .publish))

/-- What is done about a row, and what becomes of it. A failed delivery that cannot be counted is not resolved. -/
inductive Dispatches (r : Row) : List Deed → Except Abort Resolution → Prop
  | delivered (ds : List Deed) (t : Time) (answer : Except StoreError Unit) (hd : Delivers s r ds (.ok (.ok ()))) :
      Dispatches r (ds ++ [.markProcessed r.id t answer]) (.ok (.ofMark answer))
  | failed (ds : List Deed) (e : DeliveryError) (t : Time) (answer : Except StoreError FailureOutcome)
      (hd : Delivers s r ds (.ok (.error e))) (hcount : ¬ (listening = true ∧ r.attempts = 0xFFFFFFFF)) :
      Dispatches r (ds ++ [.markFailed r.id e.message t s.retry answer]) (.ok (.ofFailure answer))
  | uncounted (ds : List Deed) (e : DeliveryError) (hd : Delivers s r ds (.ok (.error e)))
      (hcount : listening = true ∧ r.attempts = 0xFFFFFFFF) : Dispatches r ds (.error .counter)
  | aborted (ds : List Deed) (a : Abort) (hd : Delivers s r ds (.error a)) : Dispatches r ds (.error a)

inductive DispatchesAll : List Row → Report → List Deed → Except Abort Report → Prop
  | nil (report : Report) : DispatchesAll [] report [] (.ok report)
  | cons (r : Row) (rows : List Row) (report : Report) (ds ds' : List Deed) (x : Resolution)
      (result : Except Abort Report) (hr : Dispatches s listening r ds (.ok x))
      (hrows : DispatchesAll rows (report.count x) ds' result) : DispatchesAll (r :: rows) report (ds ++ ds') result
  | aborted (r : Row) (rows : List Row) (report : Report) (ds : List Deed) (a : Abort)
      (hr : Dispatches s listening r ds (.error a)) : DispatchesAll (r :: rows) report ds (.error a)

inductive Iterates : List Deed → Except Interruption Report → Prop
  | refused (t : Time) (e : Interruption) :
      Iterates [.claim s.batchSize s.workerId s.lease t (.error e)] (.error e)
  | claimed (t : Time) (batch : List Row) (ds : List Deed) (result : Except Abort Report)
      (hrows : DispatchesAll s listening batch (.ofClaimed batch.length) ds result) :
      Iterates (.claim s.batchSize s.workerId s.lease t (.ok batch) :: ds) (result.mapError .aborted)

variable {s listening} {r : Row} {rows : List Row} {report : Report}

theorem deliver_tells : (deliver s r (backend listening)).run.Tells (Delivers s r) := by
  cases hm : r.message? s.topic with
  | error e =>
      simp only [deliver, hm]
      exact .unwritten e hm
  | ok m =>
      simp only [deliver, hm]
      intro x
      cases x with
      | error a => exact .published m (.error a) hm
      | ok answer => exact .published m (.ok answer) hm

theorem warn_tells {error : String} : (warn s r (backend listening) error).run.Tells fun ds result => ds = [] ∧
    (result = .ok () ∧ ¬ (listening = true ∧ r.attempts = 0xFFFFFFFF) ∨
      result = .error .counter ∧ listening = true ∧ r.attempts = 0xFFFFFFFF) := by
  cases listening with
  | false => exact ⟨rfl, .inl ⟨rfl, fun h => Bool.false_ne_true h.1⟩⟩
  | true =>
      by_cases hr : r.attempts = 0xFFFFFFFF
      · have hwarn : warn s r (backend true) error = throw .counter := by simp [warn, backend, hr]
        rw [hwarn]
        exact ⟨rfl, .inr ⟨rfl, rfl, hr⟩⟩
      · have hwarn : warn s r (backend true) error =
            ExceptT.lift (.log (publishFailedEvent s r (r.attempts + 1) error) (.done ())) := by
          simp only [warn, backend, if_true, if_neg hr]
          rfl
        rw [hwarn]
        exact ⟨rfl, .inl ⟨rfl, fun h => hr h.2⟩⟩

theorem resolveDelivered_tells : (resolveDelivered s r (backend listening)).Tells fun ds x =>
    ∃ t answer, ds = [.markProcessed r.id t answer] ∧ x = .ofMark answer := by
  intro t answer
  cases answer with
  | error e => exact ⟨t, .error e, rfl, rfl⟩
  | ok a => exact ⟨t, .ok a, rfl, rfl⟩

theorem resolveFailed_tells {error : String} : (resolveFailed s r (backend listening) error).Tells fun ds x =>
    ∃ t answer, ds = [.markFailed r.id error t s.retry answer] ∧ x = .ofFailure answer := by
  intro t answer
  refine match answer with
    | .error e => ⟨t, .error e, rfl, rfl⟩
    | .ok (.retrying attempts next) => ⟨t, .ok (.retrying attempts next), rfl, rfl⟩
    | .ok (.deadLettered attempts) => ⟨t, .ok (.deadLettered attempts), rfl, rfl⟩
    | .ok .unchanged => ⟨t, .ok .unchanged, rfl, rfl⟩

theorem dispatch_tells : (dispatch s r (backend listening)).run.Tells (Dispatches s listening r) := by
  refine tells_exceptBind (deliver_tells.mono ?_)
  rintro ds (a | e | _) hd
  · exact .aborted ds a hd
  · refine tells_exceptBind (warn_tells.mono ?_)
    rintro _ result ⟨rfl, ⟨rfl, hcount⟩ | ⟨rfl, hcount⟩⟩
    · refine tells_bind (resolveFailed_tells.mono ?_)
      rintro _ x ⟨t, answer, rfl, rfl⟩
      exact .failed ds e t answer hd hcount
    · rw [List.append_nil]
      exact .uncounted ds e hd hcount
  · refine tells_bind (resolveDelivered_tells.mono ?_)
    rintro _ x ⟨t, answer, rfl, rfl⟩
    exact .delivered ds t answer hd

theorem dispatchAll_tells (rows : List Row) (report : Report) :
    (dispatchAll s (backend listening) rows report).run.Tells (DispatchesAll s listening rows report) := by
  induction rows generalizing report with
  | nil => exact .nil report
  | cons r rows ih =>
      refine tells_exceptBind (dispatch_tells.mono ?_)
      rintro ds (a | x) hr
      · exact .aborted r rows report ds a hr
      · exact (ih (report.count x)).mono fun ds' result hrows => .cons r rows report ds ds' x result hr hrows

theorem iteration_tells : (iteration s listening).Tells (Iterates s listening) := by
  intro t x
  cases x with
  | error e => exact .refused t e
  | ok batch =>
      cases batch with
      | nil => exact .claimed t [] [] _ (.nil _)
      | cons r rows =>
          change Tells _ (.log (claimedEvent s (r :: rows).length)
            ((dispatchAll s (backend listening) (r :: rows) (.ofClaimed (r :: rows).length)).run.bind
              fun result => .done (result.mapError Interruption.aborted)))
          refine tells_bind ((dispatchAll_tells (r :: rows) _).mono ?_)
          intro ds result hrows
          change Iterates s listening (.claim s.batchSize s.workerId s.lease t (.ok (r :: rows)) :: (ds ++ [])) _
          rw [List.append_nil]
          exact .claimed t (r :: rows) ds result hrows

end Worker

/-- An iteration that was not cut short: what was done, and the report or why there is none. -/
structure Shift where
  deeds : List Deed
  result : Except StoreError Report

namespace Shift

open Worker

variable {s : Settings} {listening : Bool} {ds : List Deed} {rows : List Row} {report : Report}

/-- There is one claim. If it is granted, every row of the batch is dispatched, in their order, and the report counts
what becomes of each. -/
inductive IsWhole (s : Settings) (listening : Bool) : Shift → Prop
  | refused (t : Time) (e : StoreError) :
      IsWhole s listening ⟨[.claim s.batchSize s.workerId s.lease t (.error (.refused e))], .error e⟩
  | worked (t : Time) (batch : List Row) (parts : List (List Deed × Resolution))
      (hparts : List.Forall₂ (fun r part => Dispatches s listening r part.1 (.ok part.2)) batch parts) :
      IsWhole s listening ⟨.claim s.batchSize s.workerId s.lease t (.ok batch) :: parts.flatMap (·.1),
        .ok (parts.foldl (fun report part => report.count part.2) (.ofClaimed batch.length))⟩

theorem exists_parts {result : Except Abort Report} (h : DispatchesAll s listening rows report ds result)
    (hresult : ∀ a, result ≠ .error a) : ∃ parts : List (List Deed × Resolution),
      List.Forall₂ (fun r part => Dispatches s listening r part.1 (.ok part.2)) rows parts ∧
      ds = parts.flatMap (·.1) ∧ result = .ok (parts.foldl (fun report part => report.count part.2) report) := by
  induction h with
  | nil report => exact ⟨[], .nil, rfl, rfl⟩
  | cons r rows report ds ds' x result hr _ ih =>
      obtain ⟨parts, hparts, rfl, hreport⟩ := ih hresult
      exact ⟨(ds, x) :: parts, .cons hr hparts, rfl, hreport⟩
  | aborted r rows report ds a hr => exact absurd rfl (hresult a)

theorem isWhole_refused {e : StoreError} (h : Iterates s listening ds (.error (.refused e))) :
    IsWhole s listening ⟨ds, .error e⟩ := by
  generalize hend : Except.error (Interruption.refused e) = result at h
  cases h with
  | refused t _ =>
      cases hend
      exact .refused t e
  | claimed t batch ds result hrows => cases result <;> cases hend

theorem isWhole_worked (h : Iterates s listening ds (.ok report)) : IsWhole s listening ⟨ds, .ok report⟩ := by
  generalize hend : Except.ok report = result at h
  cases h with
  | refused t e => cases hend
  | claimed t batch ds result hrows =>
      cases result with
      | error a => cases hend
      | ok report' =>
          obtain ⟨parts, hparts, rfl, hreport⟩ := exists_parts hrows nofun
          cases hend
          cases hreport
          exact .worked t batch parts hparts

end Shift

end Outbox
