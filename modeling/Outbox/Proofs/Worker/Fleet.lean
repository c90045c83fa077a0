import Mathlib.Logic.Function.Basic
import Outbox.Proofs.Store.Operation
import Outbox.Proofs.Worker.Program

namespace Outbox

/-- Workers over one store, each in the middle of an iteration or after its last one. -/
structure Fleet (ι : Type) where
  store : Store
  crew : ι → Program (Except Interruption Report)

/-- What one step of a fleet does. A worker that looks at the clock, writes a log line, starts an
iteration or is refused a claim is `busy`. -/
inductive FleetEvent (ι : Type)
  | busy (i : ι)
  | claimed (i : ι) (now : Time) (batch : List Row)
  | accepted (i : ι) (m : Message)
  | rejected (i : ι) (m : Message) (e : PublishError)
  | processed (i : ι) (id : EventId)
  | failed (i : ι) (id : EventId)
  | crashed (i : ι)
  | added (rows : List Row)
  | requeued (id : EventId)
  | purged (rows : List Row)

namespace FleetEvent

variable {ι : Type}

def rowsAdded : FleetEvent ι → List Row
  | .added rows => rows
  | _ => []

def rowsPurged : FleetEvent ι → List Row
  | .purged rows => rows
  | _ => []

def messages : FleetEvent ι → List Message
  | .accepted _ m => [m]
  | _ => []

end FleetEvent

def Store.purgeable (s : Store) (before : Time) : List Row :=
  s.rows.entries.filter fun r => ((s.purge before).2.get? r.id).isNone

namespace Fleet

variable {ι : Type} [DecidableEq ι]

def atRest : Program (Except Interruption Report) := .done (.ok (.ofClaimed 0))

def empty : Fleet ι := ⟨.empty, fun _ => atRest⟩

def set (F : Fleet ι) (i : ι) (p : Program (Except Interruption Report)) : Fleet ι :=
  { F with crew := Function.update F.crew i p }

/-- One question of one worker and its answer, a crash, or something done to the store from outside.
Clock readings and the publisher's verdicts are left open. -/
inductive Step : Fleet ι → FleetEvent ι → Fleet ι → Prop
  | start (F) (i) (result) (s : Settings) (listening : Bool) (h : F.crew i = .done result) :
      Step F (.busy i) (F.set i (.iteration s listening))
  | now (F) (i) (next) (t : Time) (h : F.crew i = .now next) : Step F (.busy i) (F.set i (next t))
  | log (F) (i) (e) (next) (h : F.crew i = .log e next) : Step F (.busy i) (F.set i next)
  | refuse (F) (i) (take worker lease t next e) (h : F.crew i = .claim take worker lease t next)
      (hs : F.store.claim take worker lease t = .error e) : Step F (.busy i) (F.set i (next (.error (.refused e))))
  | claim (F) (i) (take worker lease t next batch s) (h : F.crew i = .claim take worker lease t next)
      (hs : F.store.claim take worker lease t = .ok (batch, s)) :
      Step F (.claimed i t batch) (set { F with store := s } i (next (.ok batch)))
  | accept (F) (i) (m next) (h : F.crew i = .publish m next) :
      Step F (.accepted i m) (F.set i (next (.ok (.ok ()))))
  | reject (F) (i) (m next) (e : PublishError) (h : F.crew i = .publish m next) :
      Step F (.rejected i m e) (F.set i (next (.ok (.error e))))
  | markProcessed (F) (i) (id t next) (h : F.crew i = .markProcessed id t next) :
      Step F (.processed i id) (set { F with store := (F.store.answer (.markProcessed id t)).2 } i
        (next ((F.store.markProcessed id t).map fun _ => ())))
  | markFailed (F) (i) (id error t policy next) (h : F.crew i = .markFailed id error t policy next) :
      Step F (.failed i id) (set { F with store := (F.store.answer (.markFailed id error t policy)).2 } i
        (next ((F.store.markFailed id error t policy).map Prod.fst)))
  | crash (F) (i) : Step F (.crashed i) (F.set i atRest)
  | add (F) (rows s) (hstaged : ∀ r ∈ rows, r.IsStaged) (hs : F.store.add rows = .ok s) :
      Step F (.added rows) { F with store := s }
  | requeue (F) (id r s) (hs : F.store.requeue id = .ok (r, s)) : Step F (.requeued id) { F with store := s }
  | purge (F) (before : Time) :
      Step F (.purged (F.store.purgeable before)) { F with store := (F.store.purge before).2 }

/-- Ids of rows that were purged are not given to new rows. -/
def KeepsIdsApart (trace : List (FleetEvent ι)) (e : FleetEvent ι) : Prop :=
  ∀ r ∈ e.rowsAdded, ∀ q ∈ trace.flatMap FleetEvent.rowsPurged, q.id ≠ r.id

/-- The fleets that can come about from an empty store, with what happened until then. -/
inductive Run : List (FleetEvent ι) → Fleet ι → Prop
  | start : Run [] empty
  | step {trace F e G} (h : Run trace F) (hs : Step F e G) (he : KeepsIdsApart trace e) : Run (trace ++ [e]) G

theorem Run.next {trace : List (FleetEvent ι)} {F G : Fleet ι} {e : FleetEvent ι} (h : Run trace F)
    (hs : Step F e G) (he : e.rowsAdded = []) : Run (trace ++ [e]) G :=
  .step h hs (by simp [KeepsIdsApart, he])

def quick : Settings := { Settings.standard "quick" with lease := .ofSeconds 1 }

def sampleLease (stop : UInt64) : Row := (Row.sample 7).leasedTo "quick" (Time.epoch.later stop)

def sampleMessage : Message :=
  let e : Envelope := ⟨"accounts.account.created", ⟨.ofNat 7⟩, .epoch, none, none, none, "\x7b\x7d"⟩
  ⟨quick.topic, e.partitionKey, e.text⟩

/-- A second worker claims a row after the lease of the first. Both publish it and mark it, and it is purged. -/
def overtaking : List (FleetEvent Bool) :=
  [.added [Row.sample 7], .busy false, .busy false, .claimed false .epoch [sampleLease 1], .busy false,
    .accepted false sampleMessage, .busy true, .busy true, .claimed true (Time.epoch.later 2) [sampleLease 3],
    .busy true, .accepted true sampleMessage, .busy true, .processed true ⟨.ofNat 7⟩, .busy true, .busy false,
    .processed false ⟨.ofNat 7⟩, .busy false, .purged [(Row.sample 7).processed (Time.epoch.later 2)]]

theorem added_run : Run [.added [Row.sample 7]] (⟨Store.empty.put (Row.sample 7), fun _ => atRest⟩ : Fleet Bool) :=
  Run.start.step (.add _ _ _ (by decide) (by decide +kernel)) (by simp [KeepsIdsApart])

theorem overtaking_run : ∃ F, Run overtaking F := by
  have h := added_run
    |>.next (.start _ false _ quick true rfl) rfl
    |>.next (.now _ false _ .epoch rfl) rfl
    |>.next (.claim _ false _ _ _ _ _ [sampleLease 1] (Store.empty.put (sampleLease 1)) rfl (by decide +kernel)) rfl
    |>.next (.log _ false _ _ rfl) rfl
    |>.next (.accept _ false sampleMessage _ rfl) rfl
    |>.next (.start _ true _ quick true rfl) rfl
    |>.next (.now _ true _ (Time.epoch.later 2) rfl) rfl
    |>.next (.claim _ true _ _ _ _ _ [sampleLease 3] (Store.empty.put (sampleLease 3)) rfl (by decide +kernel)) rfl
    |>.next (.log _ true _ _ rfl) rfl
    |>.next (.accept _ true sampleMessage _ rfl) rfl
    |>.next (.now _ true _ (Time.epoch.later 2) rfl) rfl
    |>.next (.markProcessed _ true _ _ _ rfl) rfl
    |>.next (.log _ true _ _ rfl) rfl
    |>.next (.now _ false _ (Time.epoch.later 3) rfl) rfl
    |>.next (.markProcessed _ false _ _ _ rfl) rfl
    |>.next (.log _ false _ _ rfl) rfl
    |>.next (.purge _ (Time.epoch.later 4)) rfl
  exact ⟨_, h⟩

end Fleet

/-- A fleet as far as its store and the rows in its workers' hands go. -/
structure Floor (ι : Type) where
  store : Store
  hands : ι → Hand

namespace Floor

variable {ι : Type} [DecidableEq ι]

def set (S : Floor ι) (i : ι) (h : Hand) : Floor ι := { S with hands := Function.update S.hands i h }

def ask (S : Floor ι) (op : Store.Operation) : Floor ι := { S with store := (S.store.answer op).2 }

inductive Move : Floor ι → FleetEvent ι → Floor ι → Prop
  | rest (S) (i) : Move S (.busy i) S
  | drop (S) (i) (h : (S.hands i).IsSettled) : Move S (.busy i) (S.set i (.holding []))
  | claim (S) (i) (take worker lease t batch s) (h : S.hands i = .holding [])
      (hs : S.store.claim take worker lease t = .ok (batch, s)) :
      Move S (.claimed i t batch) ((S.ask (.claim take worker lease t)).set i (.holding batch))
  | accept (S) (i) (r rows m) (h : S.hands i = .holding (r :: rows)) (hm : r.message? m.topic = .ok m) :
      Move S (.accepted i m) (S.set i (.accepted r rows))
  | reject (S) (i) (r rows m e) (h : S.hands i = .holding (r :: rows)) (hm : r.message? m.topic = .ok m) :
      Move S (.rejected i m e) (S.set i (.rejected r rows))
  | process (S) (i) (r rows t) (h : S.hands i = .accepted r rows) :
      Move S (.processed i r.id) ((S.ask (.markProcessed r.id t)).set i (.holding rows))
  | fail (S) (i) (r rows error t policy) (h : S.hands i = .holding (r :: rows) ∨ S.hands i = .rejected r rows) :
      Move S (.failed i r.id) ((S.ask (.markFailed r.id error t policy)).set i (.holding rows))
  | crash (S) (i) : Move S (.crashed i) (S.set i (.holding []))
  | add (S) (rows s) (hstaged : ∀ r ∈ rows, r.IsStaged) (hs : S.store.add rows = .ok s) :
      Move S (.added rows) (S.ask (.add rows))
  | requeue (S) (id r s) (hs : S.store.requeue id = .ok (r, s)) : Move S (.requeued id) (S.ask (.requeue id))
  | purge (S) (before : Time) : Move S (.purged (S.store.purgeable before)) (S.ask (.purge before))

def Tracks (S : Floor ι) (F : Fleet ι) : Prop :=
  S.store = F.store ∧ ∀ i, (F.crew i).Follows Worker.Ended (S.hands i)

omit [DecidableEq ι] in
theorem Tracks.follows {S : Floor ι} {F : Fleet ι} {i : ι} {p : Program (Except Interruption Report)}
    (ht : S.Tracks F) (h : F.crew i = p) : p.Follows Worker.Ended (S.hands i) :=
  h ▸ ht.2 i

theorem tracks_set {S : Floor ι} {F : Fleet ι} {i : ι} {h : Hand} {p : Program (Except Interruption Report)}
    (ht : S.Tracks F) (hp : p.Follows Worker.Ended h) : (S.set i h).Tracks (F.set i p) := by
  refine ⟨ht.1, fun j => ?_⟩
  by_cases hj : j = i
  · subst hj
    simpa [set, Fleet.set] using hp
  · simpa [set, Fleet.set, hj] using ht.2 j

theorem tracks_rest {S : Floor ι} {F : Fleet ι} {i : ι} {p : Program (Except Interruption Report)}
    (ht : S.Tracks F) (hp : p.Follows Worker.Ended (S.hands i)) : S.Tracks (F.set i p) := by
  have h : (S.set i (S.hands i)).Tracks (F.set i p) := tracks_set ht hp
  rwa [set, Function.update_eq_self] at h

omit [DecidableEq ι] in
theorem tracks_ask {S : Floor ι} {F : Fleet ι} {op : Store.Operation} {s : Store} (ht : S.Tracks F)
    (hs : s = (F.store.answer op).2) : (S.ask op).Tracks { F with store := s } :=
  ⟨by rw [hs, ← ht.1]; rfl, ht.2⟩

/-- A worker was cut short by a limit, and may have rows in hand. -/
def IsCut (F : Fleet ι) (i : ι) : Prop := ∃ a, F.crew i = .done (.error (.aborted a))

theorem start_move {S : Floor ι} {F : Fleet ι} {i : ι} {result : Except Interruption Report}
    (h : F.crew i = .done result) (ht : S.Tracks F) :
    S.Move (.busy i) (S.set i (.holding [])) ∧ (¬ IsCut F i → S.set i (.holding []) = S) := by
  have hp : Worker.Ended result (S.hands i) := ht.follows h
  have hsame (hh : S.hands i = .holding []) : S.set i (.holding []) = S := by
    rw [set, ← hh, Function.update_eq_self]
  have hrest (hh : S.hands i = .holding []) : S.Move (.busy i) (S.set i (.holding [])) := by
    rw [hsame hh]
    exact .rest S i
  rcases result with (e | a) | report
  · exact ⟨hrest hp, fun _ => hsame hp⟩
  · exact ⟨.drop S i hp, fun hcut => absurd ⟨a, h⟩ hcut⟩
  · exact ⟨hrest hp, fun _ => hsame hp⟩

theorem step_move {S : Floor ι} {F G : Fleet ι} {e : FleetEvent ι} (hs : F.Step e G) (ht : S.Tracks F) :
    ∃ T, S.Move e T ∧ T.Tracks G ∧ ∀ i, e = .busy i → ¬ IsCut F i → T = S := by
  have hstore := ht.1
  cases hs with
  | start i result s listening h =>
      obtain ⟨hmove, hsame⟩ := start_move h ht
      refine ⟨_, hmove, tracks_set ht (Worker.iteration_follows s listening), ?_⟩
      rintro _ ⟨⟩
      exact hsame
  | now i next t h =>
      have hp := ht.follows h
      exact ⟨S, .rest S i, tracks_rest ht (hp t), fun _ _ _ => rfl⟩
  | log i e next h =>
      have hp := ht.follows h
      exact ⟨S, .rest S i, tracks_rest ht hp, fun _ _ _ => rfl⟩
  | refuse i take worker lease t next e h hs =>
      have hp := ht.follows h
      obtain ⟨hh, -, herror⟩ := hp
      exact ⟨S, .rest S i, tracks_rest ht (hh ▸ herror (.refused e)), fun _ _ _ => rfl⟩
  | claim i take worker lease t next batch s h hs =>
      have hp := ht.follows h
      obtain ⟨hh, hok, -⟩ := hp
      refine ⟨_, .claim S i take worker lease t batch s hh (hstore ▸ hs), tracks_set (tracks_ask ht ?_) (hok batch),
        by rintro _ ⟨⟩⟩
      simp [Store.answer, Store.reply, hs]
  | accept i m next h =>
      have hp := ht.follows h
      obtain ⟨r, rows, hh, hm, hok, -, -⟩ := hp
      exact ⟨_, .accept S i r rows m hh hm, tracks_set ht hok, by rintro _ ⟨⟩⟩
  | reject i m next e h =>
      have hp := ht.follows h
      obtain ⟨r, rows, hh, hm, -, herror, -⟩ := hp
      exact ⟨_, .reject S i r rows m e hh hm, tracks_set ht (herror e), by rintro _ ⟨⟩⟩
  | markProcessed i id t next h =>
      have hp := ht.follows h
      obtain ⟨r, rows, hh, rfl, hnext⟩ := hp
      exact ⟨_, .process S i r rows t hh, tracks_set (tracks_ask ht rfl) (hnext _), by rintro _ ⟨⟩⟩
  | markFailed i id error t policy next h =>
      have hp := ht.follows h
      obtain ⟨r, rows, hh, rfl, hnext⟩ := hp
      exact ⟨_, .fail S i r rows error t policy hh, tracks_set (tracks_ask ht rfl) (hnext _), by rintro _ ⟨⟩⟩
  | crash i => exact ⟨_, .crash S i, tracks_set ht rfl, by rintro _ ⟨⟩⟩
  | add rows s hstaged hs =>
      refine ⟨_, .add S rows s hstaged (hstore ▸ hs), tracks_ask ht ?_, by rintro _ ⟨⟩⟩
      simp [Store.answer, Store.reply, hs]
  | requeue id r s hs =>
      refine ⟨_, .requeue S id r s (hstore ▸ hs), tracks_ask ht ?_, by rintro _ ⟨⟩⟩
      simp [Store.answer, Store.reply, hs]
  | purge before =>
      rw [← hstore]
      exact ⟨_, .purge S before, tracks_ask ht (by rw [hstore]; rfl), by rintro _ ⟨⟩⟩

inductive History : List (FleetEvent ι) → Floor ι → Prop
  | start : History [] ⟨.empty, fun _ => .holding []⟩
  | step {trace S e T} (h : History trace S) (hm : S.Move e T) (he : Fleet.KeepsIdsApart trace e) :
      History (trace ++ [e]) T

theorem run_history {trace : List (FleetEvent ι)} {F : Fleet ι} (h : Fleet.Run trace F) :
    ∃ S, History trace S ∧ S.Tracks F := by
  induction h with
  | start => exact ⟨_, .start, rfl, fun _ => rfl⟩
  | step _ hs he ih =>
      obtain ⟨S, hh, ht⟩ := ih
      obtain ⟨T, hm, ht', -⟩ := step_move hs ht
      exact ⟨T, .step hh hm he, ht'⟩

end Floor

end Outbox
