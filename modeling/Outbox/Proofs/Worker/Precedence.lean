import Outbox.Proofs.Store.Order
import Outbox.Proofs.Worker.Custody
import Outbox.Proofs.Worker.Steady

namespace Outbox

theorem append_singleton_eq {α : Type} {xs pre post : List α} {x y : α} (h : xs ++ [x] = pre ++ y :: post) :
    (post = [] ∧ xs = pre ∧ x = y) ∨ ∃ rest, post = rest ++ [x] ∧ xs = pre ++ y :: rest := by
  rcases List.eq_nil_or_concat post with rfl | ⟨rest, z, rfl⟩
  · obtain ⟨rfl, he⟩ := List.append_inj' h rfl
    exact .inl ⟨rfl, rfl, List.singleton_inj.1 he⟩
  · rw [List.concat_eq_append] at h ⊢
    rw [← List.cons_append, ← List.append_assoc] at h
    obtain ⟨rfl, he⟩ := List.append_inj' h rfl
    exact .inr ⟨rest, by rw [List.singleton_inj.1 he], rfl⟩

namespace Fleet

variable {ι : Type} {trace : List (FleetEvent ι)} {e : FleetEvent ι} {id : EventId}

/-- No message of the row was accepted, and no attempt at it failed. -/
structure Untried (trace : List (FleetEvent ι)) (id : EventId) : Prop where
  unsent : Unsent trace id
  unfailed : ∀ i, .failed i id ∉ trace

theorem Untried.of_append (h : Untried (trace ++ [e]) id) : Untried trace id where
  unsent m hm := h.unsent m (by rw [accepted_append]; exact List.mem_append_left _ hm)
  unfailed i hi := h.unfailed i (List.mem_append_left _ hi)

end Fleet

namespace Hand.Turn

variable {ι : Type} {i : ι} {e : FleetEvent ι} {h h' : Hand} {id : EventId}

theorem sublist (ht : Turn i e h h') : h'.rows.Sublist h.rows ∨ ∃ now batch, e = .claimed i now batch := by
  cases ht with
  | rest | accept | reject => exact .inl (.refl _)
  | drop | crash => exact .inl (List.nil_sublist _)
  | claim now batch => exact .inr ⟨now, batch, rfl⟩
  | process r rows => exact .inl (List.sublist_cons_self ..)
  | fail r rows _ hh =>
      rcases hh with rfl | rfl
      · exact .inl (List.sublist_cons_self ..)
      · exact .inl (List.sublist_cons_self ..)

theorem keeps (ht : Turn i e h h') (hbusy : e = .busy i → h' = h) (hcrash : e ≠ .crashed i)
    (hprocessed : e ≠ .processed i id) (hfailed : e ≠ .failed i id) (hid : id ∈ h.rows.map Row.id) :
    id ∈ h'.rows.map Row.id := by
  cases ht with
  | rest | accept | reject => exact hid
  | drop => exact hbusy rfl ▸ hid
  | crash => exact absurd rfl hcrash
  | claim => cases hid
  | process r rows =>
      rcases List.mem_cons.1 hid with rfl | hid
      · exact absurd rfl hprocessed
      · exact hid
  | fail r rows _ hh =>
      have hid : id ∈ r.id :: rows.map Row.id := by rcases hh with rfl | rfl <;> exact hid
      rcases List.mem_cons.1 hid with rfl | hid
      · exact absurd rfl hfailed
      · exact hid

end Hand.Turn

namespace Row

variable {r : Row}

theorem IsStaged.isClaimable (h : r.IsStaged) (now : Time) : r.isClaimable now = true := by
  rw [← h]
  rfl

end Row

namespace Floor

open Fleet

section

variable {ι : Type} {trace : List (FleetEvent ι)} {S : Floor ι}

theorem Books.isStaged {s : Store} (hb : Books trace s) {r : Row} (hr : r ∈ added trace) : r.IsStaged := by
  rcases hb.kept r hr with ⟨q, -, rfl⟩ | ⟨q, -, rfl, -⟩
  · rfl
  · rfl

variable [DecidableEq ι] {T : Floor ι} {e : FleetEvent ι} {i : ι} {id : EventId}

theorem Steady.split (h : Steady trace T) {pre post : List (FleetEvent ι)} (htrace : trace = pre ++ e :: post) :
    ∃ S S', Steady pre S ∧ S.Move e S' := by
  induction h generalizing post with
  | start => simp at htrace
  | step hs hm _ _ ih =>
      rcases append_singleton_eq htrace with ⟨-, rfl, rfl⟩ | ⟨rest, -, hrest⟩
      · exact ⟨_, _, hs, hm⟩
      · exact ih hrest

theorem move_untried (hm : S.Move e T) (hp : Pledges trace (S.hands i)) (hu : Untried (trace ++ [e]) id) :
    e ≠ .processed i id ∧ e ≠ .failed i id := by
  refine ⟨?_, ?_⟩
  · rintro rfl
    cases hm with
    | process _ r rows t h =>
        obtain ⟨m, hmem, hr⟩ := hp.published r rows h
        exact hu.of_append.unsent m hmem ⟨r, rfl, hr⟩
  · rintro rfl
    exact hu.unfailed i (by simp)

theorem move_batch {now : Time} {batch : List Row} (hm : S.Move (.claimed i now batch) T) :
    S.hands i = .holding [] ∧ T.hands i = .holding batch ∧
      ∃ take worker expiry, batch = S.store.batchOf take worker expiry now := by
  cases hm with
  | claim _ take worker lease _ _ s h hs =>
      refine ⟨h, by simp [set], ?_⟩
      obtain ⟨expiry, hexpiry, -⟩ := Store.claim_eq_ok hs
      rw [Store.claim_eq S.store take worker hexpiry] at hs
      cases hs
      exact ⟨take, worker, expiry, rfl⟩

end

variable {trace : List (FleetEvent Unit)} {S T : Floor Unit} {e : FleetEvent Unit} {r : Row}

/-- Where the rows are that a lone worker has not tried. -/
structure InOrder (trace : List (FleetEvent Unit)) (S : Floor Unit) : Prop where
  untouched : ∀ r ∈ added trace, Untried trace r.id → S.store.get? r.id = some r ∨
    S.Holds () r.id ∧ ∃ worker expiry, S.store.get? r.id = some (r.leasedTo worker expiry)
  sorted : (S.hands ()).rows.Pairwise (Row.precedes · ·)
  passed : ∀ pre now batch mid, trace = pre ++ .claimed () now batch :: mid → (∀ t b, .claimed () t b ∉ mid) →
    ∀ r ∈ added pre, Untried trace r.id → S.Holds () r.id ∨ ∀ p ∈ (S.hands ()).rows, p.precedes r = true

theorem move_keeps (hm : S.Move e T) (hbusy : ∀ i, e = .busy i → T = S) (hcrash : e ≠ .crashed ())
    (hp : Pledges trace (S.hands ())) {id : EventId} (hu : Untried (trace ++ [e]) id) (h : S.Holds () id) :
    T.Holds () id := by
  obtain ⟨hprocessed, hfailed⟩ := move_untried hm hp hu
  exact (move_turn hm ()).keeps (fun he => by rw [hbusy () he]) hcrash hprocessed hfailed h

theorem move_untouched (hm : S.Move e T) (hbusy : ∀ i, e = .busy i → T = S) (hcrash : e ≠ .crashed ())
    (hb : Books trace S.store) (hp : Pledges trace (S.hands ())) (h : InOrder trace S)
    (hr : r ∈ added (trace ++ [e])) (hu : Untried (trace ++ [e]) r.id) :
    T.store.get? r.id = some r ∨
      T.Holds () r.id ∧ ∃ worker expiry, T.store.get? r.id = some (r.leasedTo worker expiry) := by
  rcases mem_added.1 hr with hr | hr
  · obtain ⟨hprocessed, hfailed⟩ := move_untried hm hp hu
    have hlive : r.isTerminal = false := by
      rw [← hb.isStaged hr]
      rfl
    rcases h.untouched r hr hu.of_append with hstored | ⟨hheld, worker, expiry, hstored⟩
    · rcases move_live hm hstored hlive with hx | ⟨i, now, batch, rfl, hin, -, hx⟩ | ⟨i, he | he⟩
      · exact .inl hx
      · obtain ⟨-, hhand, -⟩ := move_batch hm
        refine .inr ⟨?_, hx⟩
        rw [Holds, hhand]
        exact List.mem_map.2 hin
      · exact absurd he hprocessed
      · exact absurd he hfailed
    · refine .inr ⟨move_keeps hm hbusy hcrash hp hu hheld, ?_⟩
      rcases move_live hm hstored hlive with hx | ⟨i, now, batch, rfl, hin, -, worker', expiry', hx⟩ | ⟨i, he | he⟩
      · exact ⟨worker, expiry, hx⟩
      · exact ⟨worker', expiry', hx⟩
      · exact absurd he hprocessed
      · exact absurd he hfailed
  · cases hm with
    | add rows s hstaged hs =>
        have hstore : (S.ask (.add rows)).store = s := by simp [ask, Store.answer, Store.reply, hs]
        rw [hstore]
        exact .inl (Store.get?_of_mem ((Store.mem_of_add hs).2 (.inl hr)))
    | _ => cases hr

theorem sorted_batchOf (s : Store) (take : Nat) (worker : String) (expiry now : Time) :
    (s.batchOf take worker expiry now).Pairwise (Row.precedes · ·) := by
  rw [Store.batchOf, List.pairwise_map]
  exact ((isOrder_precedes fun _ => true).pairwise _).sublist (List.take_sublist ..)

theorem move_sorted (hm : S.Move e T) (h : InOrder trace S) : (T.hands ()).rows.Pairwise (Row.precedes · ·) := by
  rcases (move_turn hm ()).sublist with hsub | ⟨now, batch, rfl⟩
  · exact h.sorted.sublist hsub
  · obtain ⟨-, hhand, take, worker, expiry, rfl⟩ := move_batch hm
    rw [hhand]
    exact sorted_batchOf ..

theorem batch_passes {s : Store} {take : Nat} {worker : String} {expiry now : Time} (hr : s.get? r.id = some r)
    (hclaim : r.isClaimable now = true) :
    r.id ∈ (s.batchOf take worker expiry now).map Row.id ∨
      ∀ p ∈ s.batchOf take worker expiry now, p.precedes r = true := by
  have hmem := Store.mem_claimable.2 ⟨hr, hclaim⟩
  have hsorted := (isOrder_precedes fun _ => true).pairwise (s.rows.entries.filter (·.isClaimable now))
  rw [← Store.claimable, ← List.take_append_drop take (s.claimable now), List.pairwise_append] at hsorted
  rw [← List.take_append_drop take (s.claimable now), List.mem_append] at hmem
  rcases hmem with hmem | hmem
  · exact .inl (List.mem_map.2 ⟨r.leasedTo worker expiry, List.mem_map_of_mem hmem, rfl⟩)
  · refine .inr fun p hp => ?_
    obtain ⟨q, hq, rfl⟩ := List.mem_map.1 hp
    exact hsorted.2.2 q hq r hmem

theorem move_passed (hm : S.Move e T) (hbusy : ∀ i, e = .busy i → T = S) (hcrash : e ≠ .crashed ())
    (hb : Books trace S.store) (hp : Pledges trace (S.hands ())) (h : InOrder trace S)
    {pre mid : List (FleetEvent Unit)} {now : Time} {batch : List Row}
    (htrace : trace ++ [e] = pre ++ .claimed () now batch :: mid) (hmid : ∀ t b, .claimed () t b ∉ mid)
    (hr : r ∈ added pre) (hu : Untried (trace ++ [e]) r.id) :
    T.Holds () r.id ∨ ∀ p ∈ (T.hands ()).rows, p.precedes r = true := by
  rcases append_singleton_eq htrace with ⟨-, rfl, rfl⟩ | ⟨rest, rfl, rfl⟩
  · obtain ⟨hempty, hhand, take, worker, expiry, rfl⟩ := move_batch hm
    -- the hand is empty at a claim, so an untried row can only be as it was staged
    have hstored : S.store.get? r.id = some r := by
      rcases h.untouched r hr hu.of_append with hstored | ⟨hheld, -⟩
      · exact hstored
      · simp [Holds, hempty, Hand.rows] at hheld
    rw [Holds, hhand]
    exact batch_passes hstored ((hb.isStaged hr).isClaimable now)
  · rcases h.passed pre now batch rest rfl (fun t b hc => hmid t b (List.mem_append_left _ hc)) r hr hu.of_append with
      hheld | hall
    · exact .inl (move_keeps hm hbusy hcrash hp hu hheld)
    · rcases (move_turn hm ()).sublist with hsub | ⟨t, b, rfl⟩
      · exact .inr fun p hp => hall p (hsub.subset hp)
      · exact absurd (by simp) (hmid t b)

theorem steady_inOrder (h : Steady trace S) (hcrash : .crashed () ∉ trace) : InOrder trace S := by
  induction h with
  | start => exact ⟨by simp [added], .nil, by simp⟩
  | step hs hm hbusy he ih =>
      have hinorder := ih fun hc => hcrash (List.mem_append_left _ hc)
      obtain ⟨hb, hp⟩ := history_accounts hs.history
      have hstep : _ ≠ _ := fun hc => hcrash (List.mem_append_right _ (List.mem_singleton.2 hc.symm))
      exact ⟨fun r hr hu => move_untouched hm hbusy hstep hb (hp ()) hinorder hr hu, move_sorted hm hinorder,
        fun _ _ _ _ htrace hmid r hr hu => move_passed hm hbusy hstep hb (hp ()) hinorder htrace hmid hr hu⟩

end Floor

namespace Fleet

open Floor

/-- Where a younger row is accepted before an older one that the last claim could see, an attempt at the older one
had failed by then. -/
def OldestFirst (trace : List (FleetEvent Unit)) : Prop :=
  ∀ pre now batch mid m post, trace = pre ++ .claimed () now batch :: (mid ++ .accepted () m :: post) →
    (∀ t b, .claimed () t b ∉ mid) → ∀ r ∈ added pre, ∀ q ∈ added trace, m.IsOf q.id → r.precedes q = true →
      r.id ≠ q.id → Unsent (pre ++ .claimed () now batch :: mid) r.id →
        .failed () r.id ∈ pre ++ .claimed () now batch :: mid

theorem oldest_first {trace : List (FleetEvent Unit)} {F : Fleet Unit} (h : Run trace F)
    (hcrash : .crashed () ∉ trace) : OldestFirst trace := by
  intro pre now batch mid m post htrace hmid r hr q hq hm hbefore hne hunsent
  by_contra hnot
  have hsplit : trace = (pre ++ .claimed () now batch :: mid) ++ .accepted () m :: post := by simp [htrace]
  obtain ⟨T, hT, -⟩ := run_steady h
  obtain ⟨S, S', hS, hmove⟩ := hT.split hsplit
  have hinorder := steady_inOrder hS fun hc => hcrash (by rw [hsplit]; exact List.mem_append_left _ hc)
  have hold {p : Row} (hp : p ∈ added (pre ++ .claimed () now batch :: mid)) : p ∈ added trace := by
    rw [hsplit, added, List.flatMap_append]
    exact List.mem_append_left _ hp
  -- whatever is in hand is a row that was added, so its id tells which one
  have hknown {p r : Row} (hp : p ∈ (S.hands ()).rows) (hr : r ∈ added trace) (hid : p.id = r.id) : p.asStaged = r :=
    (history_accounts hT.history).1.distinct _ (hold (((history_accounts hS.history).2 ()).known p hp)) r hr hid
  obtain ⟨p, rows, hhand, -, hmessage⟩ := (move_turn hmove ()).sends
  have hpid : p.id = q.id := (Message.isOf_iff hmessage).1 hm
  have hrow : r ∈ added trace := by
    rw [htrace, added, List.flatMap_append]
    exact List.mem_append_left _ hr
  have hpr : p.precedes r = true := by
    rcases hinorder.passed pre now batch mid rfl hmid r hr ⟨hunsent, fun _ => hnot⟩ with hheld | hall
    · rw [Holds, hhand] at hheld
      rcases List.mem_cons.1 hheld with hid | hheld
      · exact absurd (hid.trans hpid) hne
      · obtain ⟨p', hp', hid⟩ := List.mem_map.1 hheld
        have hsorted := hinorder.sorted
        rw [hhand] at hsorted
        have hafter := (List.pairwise_cons.1 hsorted).1 p' hp'
        rw [← hknown (by rw [hhand]; exact List.mem_cons_of_mem _ hp') hrow hid]
        exact hafter
    · exact hall p (by rw [hhand]; exact List.mem_cons_self ..)
  have hqr : q.precedes r = true := by
    rw [← hknown (by rw [hhand]; exact List.mem_cons_self ..) hq hpid]
    exact hpr
  exact hne ((isOrder_precedes fun _ => true).antisymm r q rfl rfl hbefore hqr)

def youngerLease : Row := (Row.sample 8).leasedTo "quick" (Time.epoch.later 1)

def youngerMessage : Message :=
  let e : Envelope := ⟨"accounts.account.created", ⟨.ofNat 8⟩, .epoch, none, none, none, "\x7b\x7d"⟩
  ⟨quick.topic, e.partitionKey, e.text⟩

def deferring : List (FleetEvent Unit) :=
  [.added [Row.sample 7], .busy (), .busy (), .claimed () .epoch [sampleLease 1], .busy (),
    .rejected () sampleMessage sampleFailure, .busy (), .failed () ⟨.ofNat 7⟩, .busy (), .added [Row.sample 8],
    .busy (), .busy (), .claimed () .epoch [youngerLease], .busy (), .accepted () youngerMessage]

theorem deferring_run : ∃ F, Run deferring F := by
  let waiting := (Row.sample 7).failed sampleFailure.message .epoch .standard
  have h : Run [.added [Row.sample 7]] (⟨Store.empty.put (Row.sample 7), fun _ => atRest⟩ : Fleet Unit) :=
    Run.start.step (.add _ _ _ (by decide) (by decide +kernel)) (by simp [KeepsIdsApart])
  have h := h
    |>.next (.start _ () _ quick false rfl) rfl
    |>.next (.now _ () _ .epoch rfl) rfl
    |>.next (.claim _ () _ _ _ _ _ [sampleLease 1] (Store.empty.put (sampleLease 1)) rfl (by decide +kernel)) rfl
    |>.next (.log _ () _ _ rfl) rfl
    |>.next (.reject _ () sampleMessage _ sampleFailure rfl) rfl
    |>.next (.now _ () _ .epoch rfl) rfl
    |>.next (.markFailed _ () _ _ _ _ _ rfl) rfl
    |>.next (.log _ () _ _ rfl) rfl
    |>.step (.add _ [Row.sample 8] ((Store.empty.put waiting).put (Row.sample 8)) (by decide) (by decide +kernel))
      (by simp [KeepsIdsApart, FleetEvent.rowsPurged])
    |>.next (.start _ () _ quick false rfl) rfl
    |>.next (.now _ () _ .epoch rfl) rfl
    |>.next (.claim _ () _ _ _ _ _ [youngerLease] ((Store.empty.put waiting).put youngerLease) rfl
      (by decide +kernel)) rfl
    |>.next (.log _ () _ _ rfl) rfl
    |>.next (.accept _ () youngerMessage _ rfl) rfl
  exact ⟨_, h⟩

end Fleet

end Outbox
