import Outbox.Proofs.Worker.Fleet

namespace Outbox

namespace Store

variable {id : EventId} {op : Operation}

theorem Change.origin {x : Option Row} {q : Row} (h : Change id op x (some q)) :
    (∃ rows, op = .add rows ∧ q ∈ rows) ∨ ∃ p, x = some p ∧ p.asStaged = q.asStaged ∧
      (q.isProcessed = true → p.isProcessed = true ∨ ∃ t, op = .markProcessed id t) := by
  cases h with
  | same => exact .inr ⟨q, rfl, rfl, .inl⟩
  | added rows _ hr => exact .inl ⟨rows, rfl, hr⟩
  | leased take worker lease now expiry r => exact .inr ⟨r, rfl, rfl, .inl⟩
  | processed t r => exact .inr ⟨r, rfl, rfl, fun _ => .inr ⟨t, rfl⟩⟩
  | failed error now policy r => exact .inr ⟨r, rfl, rfl, .inl⟩
  | requeued r => exact .inr ⟨r, rfl, rfl, .inl⟩

theorem Change.fate {p : Row} {x : Option Row} (h : Change id op (some p) x) :
    (∃ q, x = some q ∧ q.asStaged = p.asStaged) ∨ x = none ∧ p.isProcessed = true ∧ ∃ before, op = .purge before := by
  cases h with
  | same => exact .inl ⟨p, rfl, rfl⟩
  | leased => exact .inl ⟨_, rfl, rfl⟩
  | processed => exact .inl ⟨_, rfl, rfl⟩
  | failed => exact .inl ⟨_, rfl, rfl⟩
  | requeued => exact .inl ⟨_, rfl, rfl⟩
  | purged before t _ ht => exact .inr ⟨rfl, by simp [Row.isProcessed, ht], before, rfl⟩

end Store

namespace Fleet

variable {ι : Type} (trace : List (FleetEvent ι))

def added : List Row := trace.flatMap FleetEvent.rowsAdded

def purged : List Row := trace.flatMap FleetEvent.rowsPurged

def accepted : List Message := trace.flatMap FleetEvent.messages

def Published (r : Row) : Prop := ∃ m ∈ accepted trace, r.message? m.topic = .ok m

variable {trace : List (FleetEvent ι)} {e : FleetEvent ι} {r q : Row}

theorem mem_added : r ∈ added (trace ++ [e]) ↔ r ∈ added trace ∨ r ∈ e.rowsAdded := by
  simp [added]

theorem mem_purged : r ∈ purged (trace ++ [e]) ↔ r ∈ purged trace ∨ r ∈ e.rowsPurged := by
  simp [purged]

theorem Published.mono (h : Published trace r) : Published (trace ++ [e]) r := by
  obtain ⟨m, hm, hr⟩ := h
  exact ⟨m, by simp [accepted] at hm ⊢; exact .inl hm, hr⟩

theorem Published.of_asStaged (h : Published trace r) (hq : r.asStaged = q.asStaged) : Published trace q := by
  obtain ⟨m, hm, hr⟩ := h
  refine ⟨m, hm, ?_⟩
  change q.asStaged.message? m.topic = .ok m
  rw [← hq]
  exact hr

end Fleet

namespace Floor

open Fleet

variable {ι : Type} {trace : List (FleetEvent ι)} {S T : Floor ι} {e : FleetEvent ι}

/-- The rows of a store and those that were purged are the rows that were added, and the processed ones
among them are published. -/
structure Books (trace : List (FleetEvent ι)) (s : Store) : Prop where
  kept : ∀ r ∈ added trace, (∃ q ∈ s.rows.entries, q.asStaged = r) ∨
    ∃ q ∈ purged trace, q.asStaged = r ∧ q.isProcessed = true
  known : ∀ q, q ∈ s.rows.entries ∨ q ∈ purged trace → q.asStaged ∈ added trace
  distinct : ∀ r ∈ added trace, ∀ q ∈ added trace, r.id = q.id → r = q
  published : ∀ q, q ∈ s.rows.entries ∨ q ∈ purged trace → q.isProcessed = true → Published trace q

/-- The rows in hand are rows that were added, and one that is to be marked is published. -/
structure Pledges (trace : List (FleetEvent ι)) (h : Hand) : Prop where
  known : ∀ r ∈ h.rows, r.asStaged ∈ added trace
  published : ∀ r rows, h = .accepted r rows → Published trace r

theorem Books.mono {s : Store} (hb : Books trace s) (hadd : e.rowsAdded = []) (hpurge : e.rowsPurged = []) :
    Books (trace ++ [e]) s := by
  have ha (r : Row) : r ∈ added (trace ++ [e]) ↔ r ∈ added trace := by simp [mem_added, hadd]
  have hp (r : Row) : r ∈ purged (trace ++ [e]) ↔ r ∈ purged trace := by simp [mem_purged, hpurge]
  refine ⟨?_, ?_, ?_, ?_⟩
  · intro r hr
    simpa only [hp] using hb.kept r ((ha r).1 hr)
  · intro q hq
    exact (ha _).2 (hb.known q (by simpa only [hp] using hq))
  · intro r hr q hq
    exact hb.distinct r ((ha r).1 hr) q ((ha q).1 hq)
  · intro q hq hproc
    exact (hb.published q (by simpa only [hp] using hq) hproc).mono

theorem Books.ask {s : Store} (hb : Books trace s) (op : Store.Operation) (hadd : ∀ rows, op ≠ .add rows)
    (hpurge : ∀ before, op ≠ .purge before)
    (hmark : ∀ id t, op = .markProcessed id t → ∀ r, s.get? id = some r → Published trace r) :
    Books trace (s.answer op).2 := by
  have hback (q : Row) (hq : q ∈ (s.answer op).2.rows.entries) :
      ∃ p ∈ s.rows.entries, p.asStaged = q.asStaged ∧ (q.isProcessed = true → Published trace p) := by
    have hc := Store.change_answer s op q.id
    rw [Store.get?_of_mem hq] at hc
    obtain ⟨rows, rfl, -⟩ | ⟨p, hp, hsame, hproc⟩ := hc.origin
    · exact absurd rfl (hadd rows)
    · refine ⟨p, Store.mem_of_get? hp, hsame, fun h => ?_⟩
      rcases hproc h with h | ⟨t, rfl⟩
      · exact hb.published p (.inl (Store.mem_of_get? hp)) h
      · exact hmark q.id t rfl p hp
  refine ⟨?_, ?_, hb.distinct, ?_⟩
  · intro r hr
    rcases hb.kept r hr with ⟨p, hp, rfl⟩ | hgone
    · have hc := Store.change_answer s op p.id
      rw [Store.get?_of_mem hp] at hc
      obtain ⟨q, hq, hsame⟩ | ⟨-, -, before, rfl⟩ := hc.fate
      · exact .inl ⟨q, Store.mem_of_get? hq, hsame⟩
      · exact absurd rfl (hpurge before)
    · exact .inr hgone
  · rintro q (hq | hq)
    · obtain ⟨p, hp, hsame, -⟩ := hback q hq
      exact hsame ▸ hb.known p (.inl hp)
    · exact hb.known q (.inr hq)
  · rintro q (hq | hq) hproc
    · obtain ⟨p, -, hsame, hpub⟩ := hback q hq
      exact (hpub hproc).of_asStaged hsame
    · exact hb.published q (.inr hq) hproc

theorem Books.add {s s' : Store} {rows : List Row} (hb : Books trace s) (hstaged : ∀ r ∈ rows, r.IsStaged)
    (hs : s.add rows = .ok s') (he : KeepsIdsApart trace (.added rows)) :
    Books (trace ++ [.added rows]) s' := by
  obtain ⟨hnodup, hfresh, -⟩ := Store.add_eq_ok hs
  have hold (r : Row) (hr : r ∈ rows) (q : Row) (hq : q ∈ added trace) : q.id ≠ r.id := by
    rcases hb.kept q hq with ⟨p, hp, rfl⟩ | ⟨p, hp, rfl, -⟩
    · intro hid
      have hnone := hfresh r hr
      rw [← show p.id = r.id from hid, Store.get?_of_mem hp] at hnone
      cases hnone
    · exact he r hr p hp
  have hmem (q : Row) : q ∈ s'.rows.entries ↔ q ∈ rows ∨ q ∈ s.rows.entries := Store.mem_of_add hs
  have hpurged (r : Row) : r ∈ purged (trace ++ [.added rows]) ↔ r ∈ purged trace := by
    simp [mem_purged, FleetEvent.rowsPurged]
  refine ⟨?_, ?_, ?_, ?_⟩
  · intro r hr
    rcases mem_added.1 hr with hr | hr
    · rcases hb.kept r hr with ⟨q, hq, hsame⟩ | ⟨q, hq, h⟩
      · exact .inl ⟨q, (hmem q).2 (.inr hq), hsame⟩
      · exact .inr ⟨q, (hpurged q).2 hq, h⟩
    · exact .inl ⟨r, (hmem r).2 (.inl hr), hstaged r hr⟩
  · rintro q (hq | hq)
    · rcases (hmem q).1 hq with hq | hq
      · refine mem_added.2 (.inr ?_)
        rw [show q.asStaged = q from hstaged q hq]
        exact hq
      · exact mem_added.2 (.inl (hb.known q (.inl hq)))
    · exact mem_added.2 (.inl (hb.known q (.inr ((hpurged q).1 hq))))
  · intro r hr q hq hid
    rcases mem_added.1 hr with hr | hr
    · rcases mem_added.1 hq with hq | hq
      · exact hb.distinct r hr q hq hid
      · exact absurd hid (hold q hq r hr)
    · rcases mem_added.1 hq with hq | hq
      · exact absurd hid.symm (hold r hr q hq)
      · exact List.inj_on_of_nodup_map hnodup hr hq hid
  · rintro q (hq | hq) hproc
    · rcases (hmem q).1 hq with hq | hq
      · have hfalse : q.isProcessed = false := by
          rw [← show q.asStaged = q from hstaged q hq]
          rfl
        rw [hfalse] at hproc
        cases hproc
      · exact (hb.published q (.inl hq) hproc).mono
    · exact (hb.published q (.inr ((hpurged q).1 hq)) hproc).mono

theorem Books.purge {s : Store} (hb : Books trace s) (before : Time) :
    Books (trace ++ [.purged (s.purgeable before)]) (s.purge before).2 := by
  have hadded (r : Row) : r ∈ added (trace ++ [.purged (s.purgeable before)]) ↔ r ∈ added trace := by
    simp [mem_added, FleetEvent.rowsAdded]
  have hgone (q : Row) : q ∈ s.purgeable before ↔ q ∈ s.rows.entries ∧ (s.purge before).2.get? q.id = none := by
    simp [Store.purgeable]
  have hleft (q : Row) (hq : q ∈ (s.purge before).2.rows.entries) : q ∈ s.rows.entries := by
    have hq' := Store.get?_of_mem hq
    rw [Store.get?_purge, Option.filter_eq_some_iff] at hq'
    exact Store.mem_of_get? hq'.1
  have hwas (q : Row)
      (hq : q ∈ (s.purge before).2.rows.entries ∨ q ∈ purged (trace ++ [.purged (s.purgeable before)])) :
      q ∈ s.rows.entries ∨ q ∈ purged trace := by
    rcases hq with hq | hq
    · exact .inl (hleft q hq)
    · rcases mem_purged.1 hq with hq | hq
      · exact .inr hq
      · exact .inl ((hgone q).1 hq).1
  refine ⟨?_, ?_, ?_, ?_⟩
  · intro r hr
    rcases hb.kept r ((hadded r).1 hr) with ⟨p, hp, rfl⟩ | ⟨q, hq, h⟩
    · have hc := Store.change_purge s before p.id
      rw [Store.get?_of_mem hp] at hc
      obtain ⟨q, hq, hsame⟩ | ⟨hnone, hproc, -⟩ := hc.fate
      · exact .inl ⟨q, Store.mem_of_get? hq, hsame⟩
      · exact .inr ⟨p, mem_purged.2 (.inr ((hgone p).2 ⟨hp, hnone⟩)), rfl, hproc⟩
    · exact .inr ⟨q, mem_purged.2 (.inl hq), h⟩
  · intro q hq
    exact (hadded _).2 (hb.known q (hwas q hq))
  · intro r hr q hq
    exact hb.distinct r ((hadded r).1 hr) q ((hadded q).1 hq)
  · intro q hq hproc
    exact (hb.published q (hwas q hq) hproc).mono

theorem Pledges.mono {h : Hand} (hp : Pledges trace h) : Pledges (trace ++ [e]) h :=
  ⟨fun r hr => mem_added.2 (.inl (hp.known r hr)), fun r rows hh => (hp.published r rows hh).mono⟩

theorem pledges_nothing : Pledges trace (.holding []) := ⟨by simp [Hand.rows], by simp⟩

theorem Pledges.drop {h : Hand} {rows : List Row} (hp : Pledges trace h) (hrows : ∀ r ∈ rows, r ∈ h.rows) :
    Pledges trace (.holding rows) :=
  ⟨fun r hr => hp.known r (hrows r hr), by simp⟩

variable [DecidableEq ι]

theorem pledges_set {i : ι} {h : Hand} (hp : ∀ j, Pledges trace (S.hands j)) (hh : Pledges trace h) (j : ι) :
    Pledges trace ((S.set i h).hands j) := by
  by_cases hj : j = i
  · subst hj
    simpa [set] using hh
  · simpa [set, hj] using hp j

theorem move_accounts (hm : S.Move e T) (he : KeepsIdsApart trace e) (hb : Books trace S.store)
    (hp : ∀ i, Pledges trace (S.hands i)) :
    Books (trace ++ [e]) T.store ∧ ∀ i, Pledges (trace ++ [e]) (T.hands i) := by
  -- a hand may be older than the store's row, so what it holds is compared with what was added
  have hp' (i : ι) : Pledges (trace ++ [e]) (S.hands i) := (hp i).mono
  cases hm with
  | rest i => exact ⟨hb.mono rfl rfl, hp'⟩
  | drop i h => exact ⟨hb.mono rfl rfl, pledges_set hp' pledges_nothing⟩
  | claim i take worker lease t batch s h hs =>
      have hb' := hb.ask (.claim take worker lease t) (by simp) (by simp) (by simp)
      refine ⟨hb'.mono rfl rfl, pledges_set hp' ⟨?_, by simp⟩⟩
      intro r hr
      obtain ⟨_, -, hc⟩ := Store.claim_eq_ok hs
      obtain ⟨q, hq, -, rfl⟩ := hc.leased r hr
      exact mem_added.2 (.inl (hb.known q (.inl (Store.mem_of_get? hq))))
  | accept i r rows m h hm =>
      have hhand : (S.hands i).rows = r :: rows := by rw [h]; rfl
      refine ⟨hb.mono rfl rfl, pledges_set hp' ⟨fun q hq => (hp' i).known q (hhand ▸ hq), ?_⟩⟩
      rintro q rest ⟨⟩
      exact ⟨m, by simp [accepted, FleetEvent.messages], hm⟩
  | reject i r rows m e h hm =>
      have hhand : (S.hands i).rows = r :: rows := by rw [h]; rfl
      exact ⟨hb.mono rfl rfl, pledges_set hp' ⟨fun q hq => (hp' i).known q (hhand ▸ hq), by simp⟩⟩
  | process i r rows t h =>
      have hhand : (S.hands i).rows = r :: rows := by rw [h]; rfl
      have hb' := hb.ask (.markProcessed r.id t) (by simp) (by simp) ?_
      · exact ⟨hb'.mono rfl rfl, pledges_set hp' ((hp' i).drop fun q hq => hhand ▸ List.mem_cons_of_mem _ hq)⟩
      · rintro id t ⟨⟩ q hq
        have hr : r.asStaged ∈ added trace := (hp i).known r (hhand ▸ List.mem_cons_self ..)
        have hq' := hb.known q (.inl (Store.mem_of_get? hq))
        refine ((hp i).published r rows h).of_asStaged (hb.distinct _ hr _ hq' ?_)
        exact (Store.id_of_get? hq).symm
  | fail i r rows error t policy h =>
      have hhand : (S.hands i).rows = r :: rows := by rcases h with h | h <;> rw [h] <;> rfl
      have hb' := hb.ask (.markFailed r.id error t policy) (by simp) (by simp) (by simp)
      exact ⟨hb'.mono rfl rfl, pledges_set hp' ((hp' i).drop fun q hq => hhand ▸ List.mem_cons_of_mem _ hq)⟩
  | crash i => exact ⟨hb.mono rfl rfl, pledges_set hp' pledges_nothing⟩
  | add rows s hstaged hs =>
      refine ⟨?_, hp'⟩
      have hstore : (S.ask (.add rows)).store = s := by simp [ask, Store.answer, Store.reply, hs]
      rw [hstore]
      exact hb.add hstaged hs he
  | requeue id r s hs =>
      have hb' := hb.ask (.requeue id) (by simp) (by simp) (by simp)
      exact ⟨hb'.mono rfl rfl, hp'⟩
  | purge before => exact ⟨hb.purge before, hp'⟩

theorem history_accounts (h : History trace S) : Books trace S.store ∧ ∀ i, Pledges trace (S.hands i) := by
  induction h with
  | start => exact ⟨⟨by simp [added], by simp [purged, Store.empty, Table.empty], by simp [added],
      by simp [purged, Store.empty, Table.empty]⟩, fun _ => pledges_nothing⟩
  | step _ hm he ih => exact move_accounts hm he ih.1 ih.2

end Floor

namespace Fleet

variable {ι : Type} [DecidableEq ι]

/-- However workers, crashes and repairs interleave, a row that was added is in the store, or it was
purged after it was processed; and of every processed row a message was accepted. -/
theorem nothing_lost {trace : List (FleetEvent ι)} {F : Fleet ι} (h : Run trace F) :
    (∀ r ∈ added trace, (∃ q ∈ F.store.rows.entries, q.asStaged = r) ∨
      ∃ q ∈ purged trace, q.asStaged = r ∧ q.isProcessed = true) ∧
    ∀ q, q ∈ F.store.rows.entries ∨ q ∈ purged trace → q.isProcessed = true →
      ∃ e, q.envelope? = .ok e ∧ ∃ m ∈ accepted trace, m.key = e.partitionKey ∧ m.text = e.text := by
  obtain ⟨S, hh, hs, -⟩ := Floor.run_history h
  obtain ⟨hb, -⟩ := Floor.history_accounts hh
  rw [← hs]
  refine ⟨hb.kept, fun q hq hproc => ?_⟩
  obtain ⟨m, hm, hr⟩ := hb.published q hq hproc
  obtain ⟨e, he, hme⟩ := Row.message?_eq_ok hr
  exact ⟨e, he, m, hm, congrArg Message.key hme, congrArg Message.text hme⟩

theorem nothing_lost_purged : ∃ F, Run overtaking F ∧
    ((∃ q ∈ F.store.rows.entries, q.asStaged = Row.sample 7) ∨
      ∃ q ∈ purged overtaking, q.asStaged = Row.sample 7 ∧ q.isProcessed = true) ∧
    ∃ e, ((Row.sample 7).processed (Time.epoch.later 2)).envelope? = .ok e ∧
      ∃ m ∈ accepted overtaking, m.key = e.partitionKey ∧ m.text = e.text := by
  obtain ⟨F, h⟩ := overtaking_run
  refine ⟨F, h, (nothing_lost h).1 (Row.sample 7) ?_, (nothing_lost h).2 _ (.inr ?_) rfl⟩
  · simp [overtaking, added, FleetEvent.rowsAdded]
  · simp [overtaking, purged, FleetEvent.rowsPurged]

end Fleet

end Outbox
