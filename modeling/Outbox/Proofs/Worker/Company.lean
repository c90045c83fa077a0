import Outbox.Proofs.Worker.Deed
import Outbox.Proofs.Worker.Solo

namespace Outbox

/-- What others do to the store after each step of a worker. -/
structure Company extends Surroundings where
  meanwhile : Nat → List Store.Operation

structure Encounter where
  store : Store
  deed : Deed

namespace Encounter

def marks (found : Store) (id : EventId) (t : Time) : Encounter :=
  ⟨found, .markProcessed id t ((found.markProcessed id t).map fun _ => ())⟩

def fails (found : Store) (id : EventId) (error : String) (t : Time) (policy : RetryPolicy) : Encounter :=
  ⟨found, .markFailed id error t policy ((found.markFailed id error t policy).map Prod.fst)⟩

def message? (e : Encounter) : Option Message :=
  match e.deed with
  | .publish m _ => some m
  | _ => none

def resolution? (e : Encounter) : Option Resolution :=
  match e.deed with
  | .markProcessed _ _ answer => some (.ofMark answer)
  | .markFailed _ _ _ _ answer => some (.ofFailure answer)
  | _ => none

end Encounter

structure Scene where
  solo : Solo
  steps : Nat
  diary : List Encounter

def Scene.start (s : Store) : Scene := ⟨⟨s, 0, 0⟩, 0, []⟩

namespace Company

variable (c : Company)

def next (w : Scene) (solo : Solo) (told : List Deed) : Scene :=
  ⟨{ solo with store := solo.store.after (c.meanwhile w.steps) }, w.steps + 1, w.diary ++ told.map (⟨w.solo.store, ·⟩)⟩

def step {α : Type} (act : StateM Solo α) (told : α → List Deed) : StateM Scene α := fun w =>
  ((act w.solo).1, c.next w (act w.solo).2 (told (act w.solo).1))

def backend (listening : Bool) : Backend (StateM Scene) :=
  let b := c.toSurroundings.backend listening
  { now := c.step b.now fun _ => []
    claim := fun take worker lease t => c.step (b.claim take worker lease t) fun x => [.claim take worker lease t x]
    publish := fun m => c.step (b.publish m) fun x => [.publish m x]
    markProcessed := fun id t => c.step (b.markProcessed id t) fun x => [.markProcessed id t x]
    markFailed := fun id error t policy =>
      c.step (b.markFailed id error t policy) fun x => [.markFailed id error t policy x]
    log := fun e => c.step (b.log e) fun _ => []
    hearsWarnings := listening }

def iteration (s : Settings) (listening : Bool) (w : Scene) : Except Interruption Report × Scene :=
  (Worker.runOnce s (c.backend listening)).run w

/-- Others turn one store into another. -/
def Drifts (a b : Store) : Prop := ∃ ops, (∀ op ∈ ops, ∃ n, op ∈ c.meanwhile n) ∧ a.after ops = b

variable (s : Settings)

/-- What is done about a claimed row: its message is published, if it has one, and the row is resolved as that went. -/
inductive Handles (r : Row) (t : Time) (before : Store) : List Encounter → Store → Prop
  | accepted (m : Message) (asked found after : Store) (hm : r.message? s.topic = .ok m)
      (hasked : c.Drifts before asked) (hfound : c.Drifts asked found)
      (hafter : c.Drifts (found.answer (.markProcessed r.id t)).2 after) :
      Handles r t before [⟨asked, .publish m (.ok (.ok ()))⟩, .marks found r.id t] after
  | rejected (m : Message) (e : PublishError) (asked found after : Store) (hm : r.message? s.topic = .ok m)
      (hasked : c.Drifts before asked) (hfound : c.Drifts asked found)
      (hafter : c.Drifts (found.answer (.markFailed r.id e.message t s.retry)).2 after) :
      Handles r t before [⟨asked, .publish m (.ok (.error e))⟩, .fails found r.id e.message t s.retry] after
  | unwritten (e : EncodingError) (found after : Store) (hm : r.message? s.topic = .error e)
      (hfound : c.Drifts before found)
      (hafter : c.Drifts (found.answer (.markFailed r.id e.message t s.retry)).2 after) :
      Handles r t before [.fails found r.id e.message t s.retry] after

/-- Claimed rows are handled one after another, each at the moment of one more reading of the clock. -/
inductive Works : Nat → Store → List Row → List Encounter → Store → Prop
  | done (k : Nat) (a z : Store) (h : c.Drifts a z) : Works k a [] [] z
  | row {k : Nat} {a b z : Store} {r : Row} {rows : List Row} {part diary : List Encounter}
      (hr : c.Handles s r (c.clock k) a part b) (hrows : Works (k + 1) b rows diary z) :
      Works k a (r :: rows) (part ++ diary) z

variable {c s} {a b z : Store} {r : Row} {w : Scene} {listening : Bool}

theorem drifts_refl (a : Store) : c.Drifts a a := ⟨[], fun _ h => absurd h List.not_mem_nil, rfl⟩

theorem drifts_meanwhile (a : Store) (n : Nat) : c.Drifts a (a.after (c.meanwhile n)) :=
  ⟨c.meanwhile n, fun _ h => ⟨n, h⟩, rfl⟩

theorem Drifts.trans (hab : c.Drifts a b) (hbz : c.Drifts b z) : c.Drifts a z := by
  obtain ⟨ops, hops, rfl⟩ := hab
  obtain ⟨ops', hops', rfl⟩ := hbz
  refine ⟨ops ++ ops', fun op h => ?_, List.foldl_append⟩
  rcases List.mem_append.1 h with h | h
  · exact hops op h
  · exact hops' op h

theorem Drifts.eq_of_quiet (h : c.Drifts a b) (hquiet : ∀ n, c.meanwhile n = []) : b = a := by
  obtain ⟨ops, hops, rfl⟩ := h
  cases ops with
  | nil => rfl
  | cons op ops =>
      obtain ⟨n, hn⟩ := hops op (List.mem_cons_self ..)
      rw [hquiet n] at hn
      cases hn

theorem Handles.of_drifts {t : Time} {part : List Encounter} (hab : c.Drifts a b) (h : c.Handles s r t b part z) :
    c.Handles s r t a part z := by
  cases h with
  | accepted m asked found _ hm hasked hfound hafter =>
      exact .accepted m asked found z hm (hab.trans hasked) hfound hafter
  | rejected m e asked found _ hm hasked hfound hafter =>
      exact .rejected m e asked found z hm (hab.trans hasked) hfound hafter
  | unwritten e found _ hm hfound hafter => exact .unwritten e found z hm (hab.trans hfound) hafter

theorem Works.of_drifts {k : Nat} {rows : List Row} {diary : List Encounter} (hab : c.Drifts a b)
    (h : c.Works s k b rows diary z) : c.Works s k a rows diary z := by
  cases h with
  | done _ _ _ h => exact .done k a z (hab.trans h)
  | row hr hrows => exact .row (hr.of_drifts hab) hrows

theorem now_eq (w : Scene) : (c.backend listening).now w =
    (c.clock w.solo.readings, c.next w { w.solo with readings := w.solo.readings + 1 } []) := rfl

theorem publish_eq (m : Message) (w : Scene) : (c.backend listening).publish m w =
    (.ok (c.verdict w.solo.calls m), c.next w { w.solo with calls := w.solo.calls + 1 }
      [.publish m (.ok (c.verdict w.solo.calls m))]) := rfl

theorem diary_log (e : LogEvent) (w : Scene) : ((c.backend listening).log e w).2.diary = w.diary :=
  List.append_nil w.diary

theorem markProcessed_eq (id : EventId) (t : Time) (w : Scene) : (c.backend listening).markProcessed id t w =
    ((w.solo.store.markProcessed id t).map fun _ => (),
      c.next w { w.solo with store := (w.solo.store.answer (.markProcessed id t)).2 }
        [.markProcessed id t ((w.solo.store.markProcessed id t).map fun _ => ())]) := by
  simp only [backend, step, Surroundings.backend, Store.answer, Store.reply]
  cases w.solo.store.markProcessed id t <;> rfl

theorem markFailed_eq (id : EventId) (error : String) (t : Time) (policy : RetryPolicy) (w : Scene) :
    (c.backend listening).markFailed id error t policy w =
      ((w.solo.store.markFailed id error t policy).map Prod.fst,
        c.next w { w.solo with store := (w.solo.store.answer (.markFailed id error t policy)).2 }
          [.markFailed id error t policy ((w.solo.store.markFailed id error t policy).map Prod.fst)]) := by
  simp only [backend, step, Surroundings.backend, Store.answer, Store.reply]
  cases w.solo.store.markFailed id error t policy <;> rfl

variable (c s listening)

omit s in
theorem claim_refused {take : Nat} {worker : String} {lease : Duration} {t : Time} {e : StoreError}
    (h : w.solo.store.claim take worker lease t = .error e) : (c.backend listening).claim take worker lease t w =
      (.error (.refused e), c.next w w.solo [.claim take worker lease t (.error (.refused e))]) := by
  simp only [backend, step, Surroundings.backend, h]

omit s in
theorem claim_granted {take : Nat} {worker : String} {lease : Duration} {t : Time} {batch : List Row} {store : Store}
    (h : w.solo.store.claim take worker lease t = .ok (batch, store)) :
    (c.backend listening).claim take worker lease t w =
      (.ok batch, c.next w { w.solo with store } [.claim take worker lease t (.ok batch)]) := by
  simp only [backend, step, Surroundings.backend, h]

open Worker

theorem resolveDelivered_run (r : Row) (w : Scene) : ∃ found v,
    resolveDelivered s r (c.backend listening) w =
      (.ofMark ((found.markProcessed r.id (c.clock w.solo.readings)).map fun _ => ()), v) ∧
      v.diary = w.diary ++ [.marks found r.id (c.clock w.solo.readings)] ∧
      v.solo.readings = w.solo.readings + 1 ∧ c.Drifts w.solo.store found ∧
      c.Drifts (found.answer (.markProcessed r.id (c.clock w.solo.readings))).2 v.solo.store := by
  have hfound := drifts_meanwhile (c := c) w.solo.store w.steps
  generalize hf : w.solo.store.after (c.meanwhile w.steps) = found at hfound
  refine ⟨found, ?_⟩
  rw [resolveDelivered, bind_eq (now_eq w), bind_eq (markProcessed_eq ..)]
  simp only [next, hf, List.map_nil, List.append_nil]
  have hdrift := (drifts_meanwhile (c := c) (found.answer (.markProcessed r.id (c.clock w.solo.readings))).2
    (w.steps + 1)).trans (drifts_meanwhile _ (w.steps + 1 + 1))
  cases hx : (found.markProcessed r.id (c.clock w.solo.readings)).map fun _ => () with
  | error e => exact ⟨_, rfl, (diary_log ..).trans (by rw [Encounter.marks, hx]; rfl), rfl, hfound, hdrift⟩
  | ok => exact ⟨_, rfl, (diary_log ..).trans (by rw [Encounter.marks, hx]; rfl), rfl, hfound, hdrift⟩

theorem resolveFailed_run (r : Row) (error : String) (w : Scene) : ∃ found v,
    resolveFailed s r (c.backend listening) error w =
      (.ofFailure ((found.markFailed r.id error (c.clock w.solo.readings) s.retry).map Prod.fst), v) ∧
      v.diary = w.diary ++ [.fails found r.id error (c.clock w.solo.readings) s.retry] ∧
      v.solo.readings = w.solo.readings + 1 ∧ c.Drifts w.solo.store found ∧
      c.Drifts (found.answer (.markFailed r.id error (c.clock w.solo.readings) s.retry)).2 v.solo.store := by
  have hfound := drifts_meanwhile (c := c) w.solo.store w.steps
  generalize hf : w.solo.store.after (c.meanwhile w.steps) = found at hfound
  refine ⟨found, ?_⟩
  rw [resolveFailed, bind_eq (now_eq w), bind_eq (markFailed_eq ..)]
  simp only [next, hf, List.map_nil, List.append_nil]
  have hmarked := drifts_meanwhile (c := c)
    (found.answer (.markFailed r.id error (c.clock w.solo.readings) s.retry)).2 (w.steps + 1)
  have hlogged := hmarked.trans (drifts_meanwhile _ (w.steps + 1 + 1))
  cases hx : (found.markFailed r.id error (c.clock w.solo.readings) s.retry).map Prod.fst with
  | error e => exact ⟨_, rfl, (diary_log ..).trans (by rw [Encounter.fails, hx]; rfl), rfl, hfound, hlogged⟩
  | ok outcome =>
      cases outcome with
      | retrying | deadLettered =>
          exact ⟨_, rfl, (diary_log ..).trans (by rw [Encounter.fails, hx]; rfl), rfl, hfound, hlogged⟩
      | unchanged => exact ⟨_, rfl, by rw [Encounter.fails, hx]; rfl, rfl, hfound, hmarked⟩

theorem warn_run (hspare : r.attempts ≠ 0xFFFFFFFF) (error : String) (w : Scene) : ∃ v,
    (warn s r (c.backend listening) error).run w = (.ok (), v) ∧ v.diary = w.diary ∧
      v.solo.readings = w.solo.readings ∧ c.Drifts w.solo.store v.solo.store := by
  simp only [warn, if_neg hspare]
  split
  · exact ⟨_, rfl, diary_log .., rfl, drifts_meanwhile _ w.steps⟩
  · exact ⟨w, rfl, rfl, rfl, drifts_refl _⟩

theorem fail_run (hspare : r.attempts ≠ 0xFFFFFFFF) (e : DeliveryError) (w : Scene) : ∃ found v,
    (warn s r (c.backend listening) e.message >>= fun _ =>
      ExceptT.lift (resolveFailed s r (c.backend listening) e.message)).run w =
        (.ok (.ofFailure ((found.markFailed r.id e.message (c.clock w.solo.readings) s.retry).map Prod.fst)), v) ∧
      v.diary = w.diary ++ [.fails found r.id e.message (c.clock w.solo.readings) s.retry] ∧
      v.solo.readings = w.solo.readings + 1 ∧ c.Drifts w.solo.store found ∧
      c.Drifts (found.answer (.markFailed r.id e.message (c.clock w.solo.readings) s.retry)).2 v.solo.store := by
  obtain ⟨w₁, hwarn, hdiary₁, hreadings₁, hdrift₁⟩ := warn_run c s listening hspare e.message w
  obtain ⟨found, v, hrun, hdiary, hreadings, hfound, hafter⟩ := resolveFailed_run c s listening r e.message w₁
  rw [hreadings₁] at hrun hdiary hreadings hafter
  refine ⟨found, v, ?_, hdiary₁ ▸ hdiary, hreadings, hdrift₁.trans hfound, hafter⟩
  rw [run_bind_ok hwarn, run_lift, hrun]

theorem dispatch_run (hspare : r.attempts ≠ 0xFFFFFFFF) (w : Scene) : ∃ x part v,
    (dispatch s r (c.backend listening)).run w = (.ok x, v) ∧ v.diary = w.diary ++ part ∧
      part.filterMap Encounter.resolution? = [x] ∧ v.solo.readings = w.solo.readings + 1 ∧
      c.Handles s r (c.clock w.solo.readings) w.solo.store part v.solo.store := by
  cases hm : r.message? s.topic with
  | error e =>
      have hdeliver : (deliver s r (c.backend listening)).run w = (.ok (.error (.encoding e)), w) := by
        simp only [deliver, hm]
        rfl
      obtain ⟨found, v, hrun, hdiary, hreadings, hfound, hafter⟩ := fail_run c s listening hspare (.encoding e) w
      refine ⟨_, _, v, ?_, hdiary, rfl, hreadings, .unwritten e found v.solo.store hm hfound hafter⟩
      rw [dispatch, run_bind_ok hdeliver]
      exact hrun
  | ok m =>
      have hdeliver : (deliver s r (c.backend listening)).run w =
          (.ok ((c.verdict w.solo.calls m).mapError .publish),
            c.next w { w.solo with calls := w.solo.calls + 1 } [.publish m (.ok (c.verdict w.solo.calls m))]) := by
        simp only [deliver, hm]
        rw [run_bind_ok (x := .mk ((c.backend listening).publish m)) (publish_eq m w)]
        rfl
      have hpublished := drifts_meanwhile (c := c) w.solo.store w.steps
      cases hverdict : c.verdict w.solo.calls m with
      | error e =>
          rw [hverdict] at hdeliver
          obtain ⟨found, v, hrun, hdiary, hreadings, hfound, hafter⟩ := fail_run c s listening hspare
            (.publish e) (c.next w { w.solo with calls := w.solo.calls + 1 } [.publish m (.ok (.error e))])
          refine ⟨_, _, v, ?_, hdiary.trans (List.append_assoc ..), rfl, hreadings,
            .rejected m e w.solo.store found v.solo.store hm (drifts_refl _) (hpublished.trans hfound) hafter⟩
          rw [dispatch, run_bind_ok hdeliver]
          exact hrun
      | ok =>
          rw [hverdict] at hdeliver
          obtain ⟨found, v, hrun, hdiary, hreadings, hfound, hafter⟩ := resolveDelivered_run c s listening r
            (c.next w { w.solo with calls := w.solo.calls + 1 } [.publish m (.ok (.ok ()))])
          refine ⟨_, _, v, ?_, hdiary.trans (List.append_assoc ..), rfl, hreadings,
            .accepted m w.solo.store found v.solo.store hm (drifts_refl _) (hpublished.trans hfound) hafter⟩
          rw [dispatch, run_bind_ok hdeliver]
          change (ExceptT.lift (resolveDelivered s r (c.backend listening))).run _ = _
          rw [run_lift, hrun]

theorem dispatchAll_run {rows : List Row} (hspare : ∀ r ∈ rows, r.attempts ≠ 0xFFFFFFFF) (report : Report)
    (w : Scene) : ∃ diary v,
    (dispatchAll s (c.backend listening) rows report).run w =
      (.ok ((diary.filterMap Encounter.resolution?).foldl Report.count report), v) ∧
      v.diary = w.diary ++ diary ∧ c.Works s w.solo.readings w.solo.store rows diary v.solo.store := by
  induction rows generalizing report w with
  | nil => exact ⟨[], w, rfl, (List.append_nil _).symm, .done _ _ _ (drifts_refl _)⟩
  | cons r rows ih =>
      obtain ⟨hr, hrows⟩ := List.forall_mem_cons.1 hspare
      obtain ⟨x, part, w₁, hrun, hdiary, hx, hreadings, hhandles⟩ := dispatch_run c s listening hr w
      obtain ⟨diary, v, hrest, hdiary', hworks⟩ := ih hrows (report.count x) w₁
      refine ⟨part ++ diary, v, ?_, ?_, .row hhandles (hreadings ▸ hworks)⟩
      · rw [dispatchAll, run_bind_ok hrun, hrest, List.filterMap_append, hx]
        rfl
      · rw [hdiary', hdiary, List.append_assoc]

theorem iteration_refused {e : StoreError} (h : (w.solo.store.after (c.meanwhile w.steps)).claim s.batchSize s.workerId
      s.lease (c.clock w.solo.readings) = .error e) : ∃ v,
    c.iteration s listening w = (.error (.refused e), v) ∧ c.Drifts w.solo.store v.solo.store ∧
      v.diary = w.diary ++ [⟨w.solo.store.after (c.meanwhile w.steps),
        .claim s.batchSize s.workerId s.lease (c.clock w.solo.readings) (.error (.refused e))⟩] := by
  have hclaim := claim_refused c listening (w := c.next w { w.solo with readings := w.solo.readings + 1 } []) h
  refine ⟨_, runOnce_refused (now_eq w) hclaim, (drifts_meanwhile _ _).trans (drifts_meanwhile _ _), ?_⟩
  simp only [next, List.map_nil, List.append_nil, List.map_cons]

theorem iteration_granted {batch : List Row} {store : Store} (h : (w.solo.store.after (c.meanwhile w.steps)).claim
      s.batchSize s.workerId s.lease (c.clock w.solo.readings) = .ok (batch, store))
    (hspare : ∀ r ∈ batch, r.attempts ≠ 0xFFFFFFFF) : ∃ diary v,
    c.iteration s listening w =
      (.ok ((diary.filterMap Encounter.resolution?).foldl Report.count (.ofClaimed batch.length)), v) ∧
      c.Works s (w.solo.readings + 1) store batch diary v.solo.store ∧
      v.diary = w.diary ++ ⟨w.solo.store.after (c.meanwhile w.steps),
        .claim s.batchSize s.workerId s.lease (c.clock w.solo.readings) (.ok batch)⟩ :: diary := by
  have hclaim := claim_granted c listening (w := c.next w { w.solo with readings := w.solo.readings + 1 } []) h
  have hrun : c.iteration s listening w = _ := runOnce_claimed (now_eq w) hclaim
  generalize hw₁ : c.next (c.next w { w.solo with readings := w.solo.readings + 1 } []) _ _ = w₁ at hrun
  have hdiary₁ : w₁.diary = w.diary ++ [⟨w.solo.store.after (c.meanwhile w.steps),
      .claim s.batchSize s.workerId s.lease (c.clock w.solo.readings) (.ok batch)⟩] := by
    rw [← hw₁]
    simp only [next, List.map_nil, List.append_nil, List.map_cons]
  have hstore₁ : c.Drifts store w₁.solo.store := hw₁ ▸ drifts_meanwhile store (w.steps + 1)
  have hreadings₁ : w₁.solo.readings = w.solo.readings + 1 := hw₁ ▸ rfl
  obtain ⟨w₂, hw₂, hdiary₂, hreadings₂, hstore₂⟩ : ∃ w₂,
      (if batch.isEmpty then w₁ else ((c.backend listening).log (claimedEvent s batch.length) w₁).2) = w₂ ∧
        w₂.diary = w₁.diary ∧ w₂.solo.readings = w₁.solo.readings ∧ c.Drifts w₁.solo.store w₂.solo.store := by
    split
    · exact ⟨w₁, rfl, rfl, rfl, drifts_refl _⟩
    · exact ⟨_, rfl, diary_log .., rfl, drifts_meanwhile _ _⟩
  obtain ⟨diary, v, hall, hdiary, hworks⟩ := dispatchAll_run c s listening hspare
    (.ofClaimed batch.length) w₂
  rw [hreadings₂, hreadings₁] at hworks
  refine ⟨diary, v, ?_, hworks.of_drifts (hstore₁.trans hstore₂), ?_⟩
  · rw [hrun, hw₂, run_adapt hall]
  · rw [hdiary, hdiary₂, hdiary₁, List.append_assoc, List.singleton_append]

end Company

end Outbox
