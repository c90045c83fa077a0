import Outbox.Proofs.Store.Soundness
import Outbox.Proofs.Worker.Fleet

namespace Outbox

namespace Program

variable {α β : Type}

/-- How a program ends, if no publish call is cut short and the rows of a claim can be counted once more. -/
def Ends (post : α → Prop) : Program α → Prop
  | .done a => post a
  | .now next => ∀ t, Ends post (next t)
  | .claim _ _ _ _ next =>
    (∀ batch, (∀ r ∈ batch, r.attempts.toNat < 0xFFFFFFFF) → Ends post (next (.ok batch))) ∧
      ∀ e, Ends post (next (.error (.refused e)))
  | .publish _ next => ∀ x, Ends post (next (.ok x))
  | .markProcessed _ _ next => ∀ x, Ends post (next x)
  | .markFailed _ _ _ _ next => ∀ x, Ends post (next x)
  | .log _ next => Ends post next

theorem ends_bind {mid : α → Prop} {post : β → Prop} {f : α → Program β} {p : Program α} (hp : Ends mid p)
    (hf : ∀ a, mid a → Ends post (f a)) : Ends post (p.bind f) := by
  induction p with
  | done a => exact hf a hp
  | now next ih => exact fun t => ih t (hp t)
  | claim take worker lease t next ih => exact ⟨fun batch h => ih _ (hp.1 batch h), fun e => ih _ (hp.2 e)⟩
  | publish m next ih => exact fun x => ih _ (hp x)
  | markProcessed id t next ih => exact fun x => ih x (hp x)
  | markFailed id error t policy next ih => exact fun x => ih x (hp x)
  | log e next ih => exact ih hp

theorem ends_somehow (p : Program α) : Ends (fun _ => True) p := by
  induction p with
  | done a => trivial
  | now next ih => exact ih
  | claim take worker lease t next ih => exact ⟨fun batch _ => ih _, fun e => ih _⟩
  | publish m next ih => exact fun x => ih _
  | markProcessed id t next ih => exact ih
  | markFailed id error t policy next ih => exact ih
  | log e next ih => exact ih

def Completes {ε : Type} (x : ExceptT ε Program α) : Prop := Ends (fun result => ∃ a, result = .ok a) x.run

theorem completes_bind {ε : Type} {x : ExceptT ε Program α} {f : α → ExceptT ε Program β} (hx : Completes x)
    (hf : ∀ a, Completes (f a)) : Completes (x >>= f) := by
  refine ends_bind hx ?_
  rintro _ ⟨a, rfl⟩
  exact hf a

theorem completes_lift {ε : Type} (p : Program α) : Completes (ExceptT.lift p : ExceptT ε Program α) :=
  ends_bind (ends_somehow p) fun a _ => ⟨a, rfl⟩

end Program

namespace Worker

open Program

variable (s : Settings) {r : Row} {rows : List Row} (listening : Bool)

theorem warn_completes (hspare : r.attempts.toNat < 0xFFFFFFFF) (error : String) :
    Completes (warn s r (backend listening) error) := by
  rw [warn_of_lt hspare]
  split
  · exact ⟨_, rfl⟩
  · exact ⟨_, rfl⟩

theorem deliver_completes (r : Row) : Completes (deliver s r (backend listening)) := by
  unfold deliver
  split
  · exact ⟨_, rfl⟩
  · exact fun x => ⟨_, rfl⟩

theorem dispatch_completes (hspare : r.attempts.toNat < 0xFFFFFFFF) :
    Completes (dispatch s r (backend listening)) := by
  refine completes_bind (deliver_completes s listening r) ?_
  rintro (e | _)
  · exact completes_bind (warn_completes s listening hspare e.message) fun _ => completes_lift _
  · exact completes_lift _

theorem dispatchAll_completes (hspare : ∀ r ∈ rows, r.attempts.toNat < 0xFFFFFFFF) (report : Report) :
    Completes (dispatchAll s (backend listening) rows report) := by
  induction rows generalizing report with
  | nil => exact ⟨report, rfl⟩
  | cons r rows ih =>
      obtain ⟨hr, hrows⟩ := List.forall_mem_cons.1 hspare
      exact completes_bind (dispatch_completes s listening hr) fun x => ih hrows (report.count x)

def Uncut (result : Except Interruption Report) : Prop := ∀ a, result ≠ .error (.aborted a)

theorem iteration_ends : Ends Uncut (iteration s listening) := by
  intro t
  refine ⟨fun batch hspare => ?_, fun e => nofun⟩
  cases batch with
  | nil => exact nofun
  | cons r rows =>
      have hall := dispatchAll_completes s listening hspare (.ofClaimed (r :: rows).length)
      change Ends Uncut (.log (claimedEvent s (r :: rows).length)
        ((dispatchAll s (backend listening) (r :: rows) (.ofClaimed (r :: rows).length)).run.bind
          fun x => .done (x.mapError Interruption.aborted)))
      refine ends_bind hall ?_
      rintro _ ⟨report, rfl⟩
      exact nofun

end Worker

namespace Floor

open Worker

variable {ι : Type} [DecidableEq ι] {trace : List (FleetEvent ι)} {S T : Floor ι} {F G : Fleet ι} {e : FleetEvent ι}

theorem move_sound (hm : S.Move e T) (hs : S.store.IsSound) : T.store.IsSound := by
  cases hm with
  | rest | drop | accept | reject | crash => exact hs
  | add rows _ hstaged =>
      refine Store.isSound_answer hs ?_
      rintro _ ⟨⟩
      exact hstaged
  | claim | process | fail | requeue | purge => exact Store.isSound_answer hs nofun

/-- A floor on which a worker that is busy never drops what it has in hand. -/
inductive Steady : List (FleetEvent ι) → Floor ι → Prop
  | start : Steady [] ⟨.empty, fun _ => .holding []⟩
  | step {trace : List (FleetEvent ι)} {S T : Floor ι} {e : FleetEvent ι} (h : Steady trace S) (hm : S.Move e T)
      (hbusy : ∀ i, e = .busy i → T = S) (he : Fleet.KeepsIdsApart trace e) : Steady (trace ++ [e]) T

theorem Steady.history (h : Steady trace S) : History trace S := by
  induction h with
  | start => exact .start
  | step _ hm _ he ih => exact .step ih hm he

theorem atRest_ends : Fleet.atRest.Ends Uncut := by
  rintro a ⟨⟩

theorem ends_set {i : ι} {p : Program (Except Interruption Report)} (h : ∀ j, (F.crew j).Ends Uncut)
    (hp : p.Ends Uncut) (j : ι) : ((F.set i p).crew j).Ends Uncut := by
  by_cases hj : j = i
  · subst hj
    simpa [Fleet.set] using hp
  · simpa [Fleet.set, hj] using h j

omit [DecidableEq ι] in
theorem spare_claimed {s : Store} {take : Nat} {worker : String} {lease : Duration} {now : Time} {batch : List Row}
    (hs : F.store.claim take worker lease now = .ok (batch, s)) (hsound : F.store.IsSound) :
    ∀ r ∈ batch, r.attempts.toNat < 0xFFFFFFFF := by
  intro r hr
  obtain ⟨_, -, hc⟩ := Store.claim_eq_ok hs
  obtain ⟨q, hq, hclaim, rfl⟩ := hc.leased r hr
  exact (hsound _ q hq).spare (Row.not_terminal_of_claimable hclaim)

theorem step_ends (hs : F.Step e G) (hsound : F.store.IsSound) (h : ∀ i, (F.crew i).Ends Uncut) (i : ι) :
    (G.crew i).Ends Uncut := by
  have hp {j : ι} {p : Program (Except Interruption Report)} (hj : F.crew j = p) : p.Ends Uncut := hj ▸ h j
  cases hs with
  | start j result s listening hj => exact ends_set h (iteration_ends s listening) i
  | now j next t hj =>
      have hnext := hp hj
      exact ends_set h (hnext t) i
  | log j e next hj =>
      have hnext := hp hj
      change next.Ends Uncut at hnext
      exact ends_set h hnext i
  | refuse j take worker lease t next e hj hs =>
      have hnext := hp hj
      exact ends_set h (hnext.2 e) i
  | claim j take worker lease t next batch s hj hs =>
      have hnext := hp hj
      exact ends_set (F := { F with store := s }) h (hnext.1 batch (spare_claimed hs hsound)) i
  | accept j m next hj | reject j m next e hj =>
      have hnext := hp hj
      exact ends_set h (hnext _) i
  | markProcessed j id t next hj | markFailed j id error t policy next hj =>
      have hnext := hp hj
      exact ends_set (F := { F with store := _ }) h (hnext _) i
  | crash j => exact ends_set h atRest_ends i
  | add rows s | requeue id r s | purge before => exact h i

theorem run_steady (h : Fleet.Run trace F) : ∃ S, Steady trace S ∧ S.Tracks F := by
  have hall : ∃ S, Steady trace S ∧ S.Tracks F ∧ S.store.IsSound ∧ ∀ i, (F.crew i).Ends Uncut := by
    induction h with
    | start => exact ⟨_, .start, ⟨rfl, fun _ => rfl⟩, Store.isSound_empty, fun _ => atRest_ends⟩
    | step _ hs he ih =>
        obtain ⟨S, hsteady, ht, hsound, hends⟩ := ih
        obtain ⟨T, hm, ht', hsame⟩ := step_move hs ht
        refine ⟨T, .step hsteady hm (fun i hi => hsame i hi ?_) he, ht', move_sound hm hsound,
          step_ends hs (ht.1 ▸ hsound) hends⟩
        rintro ⟨a, ha⟩
        have huncut := hends i
        rw [ha] at huncut
        exact huncut a rfl
  obtain ⟨S, hsteady, ht, -⟩ := hall
  exact ⟨S, hsteady, ht⟩

end Floor

end Outbox
