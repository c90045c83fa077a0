import Outbox.Proofs.Worker.Delivery
import Outbox.Proofs.Worker.Turn

namespace Outbox

def Message.IsOf (m : Message) (id : EventId) : Prop := ∃ r : Row, r.id = id ∧ r.message? m.topic = .ok m

theorem Message.isOf_iff {m : Message} {r : Row} {id : EventId} (h : r.message? m.topic = .ok m) :
    m.IsOf id ↔ r.id = id := by
  constructor
  · rintro ⟨q, rfl, hq⟩
    exact Row.id_of_message? h hq rfl
  · intro hid
    exact ⟨r, hid, h⟩

namespace Fleet

variable {ι : Type}

/-- A worker has claimed a row until `expiry` and has not resolved it since. -/
def OpenClaim (trace : List (FleetEvent ι)) (i : ι) (id : EventId) (expiry : Time) : Prop :=
  ∃ pre now batch post, trace = pre ++ .claimed i now batch :: post ∧
    (∃ r ∈ batch, r.id = id ∧ r.lockedUntil = some expiry) ∧ .processed i id ∉ post ∧ .failed i id ∉ post

/-- A row was claimed while an earlier claim of it was open but over. -/
def Overtaken (trace : List (FleetEvent ι)) (id : EventId) : Prop :=
  ∃ pre j now batch post, trace = pre ++ .claimed j now batch :: post ∧ (∃ r ∈ batch, r.id = id) ∧
    ∃ i expiry, OpenClaim pre i id expiry ∧ expiry < now

/-- Each claim of a row finds the earlier ones resolved. -/
def Orderly (trace : List (FleetEvent ι)) (id : EventId) : Prop :=
  ∀ pre j now batch post, trace = pre ++ .claimed j now batch :: post → (∃ r ∈ batch, r.id = id) →
    ∀ i expiry, ¬ OpenClaim pre i id expiry

/-- No worker crashes between a message that was accepted and the end of its row. -/
def Spares (trace : List (FleetEvent ι)) : Prop :=
  ∀ pre i m mid post, trace = pre ++ .accepted i m :: mid ++ .crashed i :: post → ∃ id, .processed i id ∈ mid

variable {trace : List (FleetEvent ι)} {e : FleetEvent ι} {i : ι} {id : EventId} {expiry : Time}

theorem OpenClaim.mono (h : OpenClaim trace i id expiry) (hp : e ≠ .processed i id) (hf : e ≠ .failed i id) :
    OpenClaim (trace ++ [e]) i id expiry := by
  obtain ⟨pre, now, batch, post, rfl, hr, hprocessed, hfailed⟩ := h
  exact ⟨pre, now, batch, post ++ [e], by simp, hr, by simp [hprocessed, hp.symm], by simp [hfailed, hf.symm]⟩

theorem Overtaken.mono (h : Overtaken trace id) : Overtaken (trace ++ [e]) id := by
  obtain ⟨pre, j, now, batch, post, rfl, hrest⟩ := h
  exact ⟨pre, j, now, batch, post ++ [e], by simp, hrest⟩

theorem Spares.of_append (h : Spares (trace ++ [e])) : Spares trace := by
  rintro pre i m mid post rfl
  exact h pre i m mid (post ++ [e]) (by simp)

theorem spares_of_no_crash (h : ∀ i, .crashed i ∉ trace) : Spares trace := by
  rintro pre i m mid post rfl
  exact absurd (by simp) (h i)

theorem Orderly.not_overtaken (h : Orderly trace id) : ¬ Overtaken trace id := by
  rintro ⟨pre, j, now, batch, post, htrace, hr, i, expiry, hopen, -⟩
  exact h pre j now batch post htrace hr i expiry hopen

def Unsent (trace : List (FleetEvent ι)) (id : EventId) : Prop := ∀ m ∈ accepted trace, ¬ m.IsOf id

def SentOnce (trace : List (FleetEvent ι)) (id : EventId) : Prop :=
  (accepted trace).Pairwise fun m m' => ¬ (m.IsOf id ∧ m'.IsOf id)

theorem accepted_append (trace : List (FleetEvent ι)) (e : FleetEvent ι) :
    accepted (trace ++ [e]) = accepted trace ++ e.messages := by
  simp [accepted]

theorem Unsent.mono (h : Unsent trace id) (he : ∀ m ∈ e.messages, ¬ m.IsOf id) : Unsent (trace ++ [e]) id := by
  intro m hm
  rw [accepted_append, List.mem_append] at hm
  rcases hm with hm | hm
  · exact h m hm
  · exact he m hm

theorem pairwise_messages (e : FleetEvent ι) (id : EventId) :
    e.messages.Pairwise fun m m' => ¬ (m.IsOf id ∧ m'.IsOf id) := by
  cases e <;> simp [FleetEvent.messages]

theorem Unsent.sentOnce (h : Unsent trace id) : SentOnce trace id := by
  refine List.pairwise_of_forall_mem_list ?_
  rintro m hm m' - ⟨hid, -⟩
  exact h m hm hid

theorem Unsent.sentOnce_append (h : Unsent trace id) : SentOnce (trace ++ [e]) id := by
  rw [SentOnce, accepted_append, List.pairwise_append]
  refine ⟨h.sentOnce, pairwise_messages e id, ?_⟩
  rintro m hm m' - ⟨hid, -⟩
  exact h m hm hid

theorem SentOnce.mono (h : SentOnce trace id) (he : ∀ m ∈ e.messages, ¬ m.IsOf id) :
    SentOnce (trace ++ [e]) id := by
  rw [SentOnce, accepted_append, List.pairwise_append]
  refine ⟨h, pairwise_messages e id, ?_⟩
  rintro m - m' hm' ⟨-, hid⟩
  exact he m' hm' hid

end Fleet

namespace Store

def Leased (s : Store) (id : EventId) (expiry : Time) : Prop :=
  ∃ r, s.get? id = some r ∧ r.isTerminal = false ∧ r.lockedUntil = some expiry

def Delivered (s : Store) (id : EventId) : Prop :=
  ∀ r, s.get? id = some r → r.isProcessed = true ∧ r.isDeadLettered = false

theorem Change.of_live {id : EventId} {op : Operation} {p : Row} {x : Option Row} (h : Change id op (some p) x)
    (hlive : p.isTerminal = false) :
    x = some p ∨ (∃ take worker lease t expiry, op = .claim take worker lease t ∧ p.isClaimable t = true ∧
        x = some (p.leasedTo worker expiry)) ∨
      (∃ t, op = .markProcessed id t) ∨ ∃ error t policy, op = .markFailed id error t policy := by
  cases h with
  | same => exact .inl rfl
  | leased take worker lease t expiry _ hexpiry hclaim =>
      exact .inr (.inl ⟨take, worker, lease, t, expiry, rfl, hclaim, rfl⟩)
  | processed t => exact .inr (.inr (.inl ⟨t, rfl⟩))
  | failed error t policy => exact .inr (.inr (.inr ⟨error, t, policy, rfl⟩))
  | requeued _ hdead =>
      rw [(Row.isTerminal_eq_false.1 hlive).2] at hdead
      cases hdead
  | purged before t _ ht hbefore =>
      have hprocessed := (Row.isTerminal_eq_false.1 hlive).1
      simp [Row.isProcessed, ht] at hprocessed

theorem Change.of_delivered {id : EventId} {op : Operation} {p : Row} {x : Option Row} (h : Change id op (some p) x)
    (hp : p.isProcessed = true) (hdead : p.isDeadLettered = false) : x = some p ∨ x = none := by
  cases h with
  | same => exact .inl rfl
  | leased take worker lease t expiry _ hexpiry hclaim =>
      rw [Row.not_processed_of_claimable hclaim] at hp
      cases hp
  | processed t _ hlive | failed error t policy _ hlive =>
      rw [(Row.isTerminal_eq_false.1 hlive).1] at hp
      cases hp
  | requeued _ hd =>
      rw [hdead] at hd
      cases hd
  | purged => exact .inr rfl

theorem get?_markProcessed {s : Store} {id : EventId} {p : Row} (h : s.get? id = some p) (hlive : p.isTerminal = false)
    (t : Time) : (s.answer (.markProcessed id t)).2.get? id = some (p.processed t) := by
  simp [answer, reply, markProcessed, h, hlive, id_of_get? h]

end Store

namespace Floor

open Fleet

variable {ι : Type} {trace : List (FleetEvent ι)} {S T : Floor ι} {e : FleetEvent ι} {i j : ι} {id : EventId}
  {expiry : Time}

def Holds (S : Floor ι) (i : ι) (id : EventId) : Prop := id ∈ (S.hands i).rows.map Row.id

def Owes (S : Floor ι) (i : ι) (id : EventId) : Prop := ∃ r rows, S.hands i = .accepted r rows ∧ r.id = id

/-- Only the worker under whose lease a row is has it in hand. -/
def Exclusive (trace : List (FleetEvent ι)) (S : Floor ι) (id : EventId) : Prop :=
  ∀ i, S.Holds i id → (∃ expiry, OpenClaim trace i id expiry ∧ S.store.Leased id expiry) ∧ ∀ j, S.Holds j id → j = i

/-- How far the delivery of a row has come, as long as it is not overtaken. -/
inductive Phase (trace : List (FleetEvent ι)) (S : Floor ι) (id : EventId) : Prop
  | waiting (hsent : Unsent trace id) (howes : ∀ i, ¬ S.Owes i id)
  | owed (i : ι) (hsent : SentOnce trace id) (howes : S.Owes i id)
  | delivered (hsent : SentOnce trace id) (hhands : ∀ i, ¬ S.Holds i id) (hadded : ∃ r ∈ added trace, r.id = id)
      (hrow : S.store.Delivered id)

theorem Owes.holds (h : S.Owes i id) : S.Holds i id := by
  obtain ⟨r, rows, hh, hid⟩ := h
  rw [Holds, hh]
  exact List.mem_map.2 ⟨r, List.mem_cons_self .., hid⟩

theorem Phase.sentOnce (hp : Phase trace S id) : SentOnce trace id := by
  cases hp with
  | waiting hsent => exact hsent.sentOnce
  | owed _ hsent => exact hsent
  | delivered hsent => exact hsent

variable [DecidableEq ι]

theorem move_nodup (hm : S.Move e T) (hn : ∀ i, ((S.hands i).rows.map Row.id).Nodup) (i : ι) :
    ((T.hands i).rows.map Row.id).Nodup :=
  (move_turn hm i).nodup (hn i)

theorem history_nodup (h : History trace S) (i : ι) : ((S.hands i).rows.map Row.id).Nodup := by
  induction h generalizing i with
  | start => exact List.nodup_nil
  | step _ hm _ ih => exact move_nodup hm ih i

theorem move_holds (hm : S.Move e T) (h : T.Holds i id) :
    S.Holds i id ∨ ∃ now batch, e = .claimed i now batch ∧ ∃ r ∈ batch, r.id = id :=
  (move_turn hm i).mem_rows h

theorem move_resolved (hm : S.Move e T) (hn : ((S.hands i).rows.map Row.id).Nodup)
    (he : e = .processed i id ∨ e = .failed i id) : S.Holds i id ∧ ¬ T.Holds i id :=
  (move_turn hm i).resolved hn he

theorem move_live {p : Row} (hm : S.Move e T) (hp : S.store.get? id = some p) (hlive : p.isTerminal = false) :
    T.store.get? id = some p ∨
    (∃ i now batch, e = .claimed i now batch ∧ (∃ r ∈ batch, r.id = id) ∧ p.isClaimable now = true ∧
      ∃ worker expiry, T.store.get? id = some (p.leasedTo worker expiry)) ∨
      ∃ i, e = .processed i id ∨ e = .failed i id := by
  rcases move_row hm id with hsame | ⟨op, hasks, hc⟩
  · exact .inl (hsame.trans hp)
  rw [hp] at hc
  rcases hc.of_live hlive with hx | ⟨take, worker, lease, t, expiry, rfl, hclaim, hx⟩ | ⟨t, rfl⟩ |
    ⟨error, t, policy, rfl⟩
  · exact .inl hx
  · cases hasks with
    | claim i _ _ _ _ batch hr => exact .inr (.inl ⟨i, t, batch, rfl, hr, hclaim, worker, expiry, hx⟩)
  · cases hasks with
    | process i => exact .inr (.inr ⟨i, .inl rfl⟩)
  · cases hasks with
    | fail i => exact .inr (.inr ⟨i, .inr rfl⟩)

theorem move_leased (hm : S.Move e T) (hl : S.store.Leased id expiry) : T.store.Leased id expiry ∨
    (∃ i now batch, e = .claimed i now batch ∧ (∃ r ∈ batch, r.id = id) ∧ expiry < now) ∨
      ∃ i, e = .processed i id ∨ e = .failed i id := by
  obtain ⟨p, hp, hlive, hexpiry⟩ := hl
  rcases move_live hm hp hlive with hx | ⟨i, now, batch, rfl, hr, hclaim, -⟩ | hend
  · exact .inl ⟨p, hx, hlive, hexpiry⟩
  · exact .inr (.inl ⟨i, now, batch, rfl, hr, Row.lt_of_claimable hclaim hexpiry⟩)
  · exact .inr (.inr hend)

theorem overtaken_of_claimed {now : Time} {batch : List Row} {r : Row} (hm : S.Move (.claimed j now batch) T)
    (hx : Exclusive trace S id) (hi : S.Holds i id) (hr : r ∈ batch) (hid : r.id = id) :
    Overtaken (trace ++ [.claimed j now batch]) id := by
  obtain ⟨⟨expiry, hopen, p, hp, -, hexpiry⟩, -⟩ := hx i hi
  obtain ⟨-, q, _, _, hq, hclaim, -⟩ := move_claimed hm hr
  rw [hid, hp] at hq
  cases hq
  exact ⟨trace, j, now, batch, [], rfl, ⟨r, hr, hid⟩, i, expiry, hopen, Row.lt_of_claimable hclaim hexpiry⟩

theorem move_exclusive (hm : S.Move e T) (hn : ∀ i, ((S.hands i).rows.map Row.id).Nodup)
    (hnot : ¬ Overtaken (trace ++ [e]) id) (hx : Exclusive trace S id) : Exclusive (trace ++ [e]) T id := by
  intro i hi
  rcases move_holds hm hi with hold | ⟨now, batch, rfl, r, hr, hid⟩
  · obtain ⟨⟨expiry, hopen, hl⟩, honly⟩ := hx i hold
    have hkeeps : ¬ (e = .processed i id ∨ e = .failed i id) := fun he => (move_resolved hm (hn i) he).2 hi
    obtain ⟨hprocessed, hfailed⟩ := not_or.1 hkeeps
    refine ⟨⟨expiry, hopen.mono hprocessed hfailed, ?_⟩, ?_⟩
    · rcases move_leased hm hl with h | ⟨j, now, batch, rfl, hr, hlt⟩ | ⟨j, he⟩
      · exact h
      · exact absurd ⟨trace, j, now, batch, [], rfl, hr, i, expiry, hopen, hlt⟩ hnot
      · obtain rfl := honly j (move_resolved hm (hn j) he).1
        exact absurd he hkeeps
    · intro j hj
      rcases move_holds hm hj with h | ⟨now, batch, rfl, r, hr, hid⟩
      · exact honly j h
      · exact absurd (overtaken_of_claimed hm hx hold hr hid) hnot
  · obtain ⟨hget, q, worker, expiry, hq, hclaim, rfl⟩ := move_claimed hm hr
    refine ⟨⟨expiry, ⟨trace, now, batch, [], rfl, ⟨_, hr, hid, rfl⟩, by simp, by simp⟩, ?_⟩, ?_⟩
    · exact ⟨_, hid ▸ hget, (Row.isTerminal_leasedTo ..).trans (Row.not_terminal_of_claimable hclaim), rfl⟩
    · intro j hj
      rcases move_holds hm hj with h | ⟨_, _, he, -⟩
      · exact absurd (overtaken_of_claimed hm hx h hr hid) hnot
      · cases he
        rfl

theorem move_sends {m : Message} (hm : S.Move e T) (he : m ∈ e.messages) (hid : m.IsOf id) :
    ∃ i, S.Holds i id ∧ ¬ S.Owes i id ∧ T.Owes i id := by
  cases e with
  | accepted i m' =>
      obtain rfl := List.mem_singleton.1 he
      obtain ⟨r, rows, hhand, hhand', hr⟩ := (move_turn hm i).sends
      have hr := (Message.isOf_iff hr).1 hid
      refine ⟨i, ?_, ?_, r, rows, hhand', hr⟩
      · rw [Holds, hhand, ← hr]
        exact List.mem_cons_self ..
      · rintro ⟨q, rest, hq, -⟩
        rw [hhand] at hq
        cases hq
  | _ => cases he

theorem move_owes (hm : S.Move e T) (h : T.Owes i id) : S.Owes i id ∨ ∃ m ∈ e.messages, m.IsOf id := by
  have ht := move_turn hm i
  obtain ⟨r, rows, hh, hid⟩ := h
  rw [hh] at ht
  rcases ht.of_accepted with ⟨hhand, -⟩ | ⟨m, rfl, hr⟩
  · exact .inl ⟨r, rows, hhand, hid⟩
  · exact .inr ⟨m, List.mem_singleton.2 rfl, r, hid, hr⟩

theorem move_owed (hm : S.Move e T) (h : S.Owes i id) : T.Owes i id ∨ e = .processed i id ∨ e = .crashed i := by
  have ht := move_turn hm i
  obtain ⟨r, rows, hh, rfl⟩ := h
  rw [hh] at ht
  rcases ht.accepted with hhand | he | he
  · exact .inl ⟨r, rows, hhand, rfl⟩
  · exact .inr (.inl he)
  · exact .inr (.inr he)

theorem history_due (h : History trace S) (ho : S.Owes i id) :
    ∃ pre m mid, trace = pre ++ .accepted i m :: mid ∧ ∀ id', .processed i id' ∉ mid := by
  induction h with
  | start =>
      obtain ⟨r, rows, hh, -⟩ := ho
      cases hh
  | @step trace S e T _ hm _ ih =>
      have ht := move_turn hm i
      obtain ⟨r, rows, hh, hid⟩ := ho
      rw [hh] at ht
      rcases ht.of_accepted with ⟨hhand, hrest⟩ | ⟨m, rfl, -⟩
      · obtain ⟨pre, m, mid, rfl, hmid⟩ := ih ⟨r, rows, hhand, hid⟩
        refine ⟨pre, m, mid ++ [e], by simp, fun id' hmem => ?_⟩
        rcases List.mem_append.1 hmem with hmem | hmem
        · exact hmid id' hmem
        · obtain rfl := List.mem_singleton.1 hmem
          cases hrest rfl
      · exact ⟨trace, m, [], rfl, by simp⟩

theorem move_delivered (hm : S.Move (.processed i id) T) (hl : S.store.Leased id expiry) : T.store.Delivered id := by
  obtain ⟨p, hp, hlive, -⟩ := hl
  cases hm with
  | process _ r rows t h =>
      intro q hq
      have hget := Store.get?_markProcessed hp hlive t
      cases hget.symm.trans hq
      exact ⟨rfl, (Row.isTerminal_eq_false.1 hlive).2⟩

theorem move_stays (hm : S.Move e T) (he : KeepsIdsApart trace e) (hb : Books trace S.store)
    (hadded : ∃ r ∈ added trace, r.id = id) (hrow : S.store.Delivered id) : T.store.Delivered id := by
  intro r hr
  rcases move_row hm id with hsame | ⟨op, hasks, hc⟩
  · exact hrow r (hsame.symm.trans hr)
  rw [hr] at hc
  cases hp : S.store.get? id with
  | some p =>
      obtain ⟨hprocessed, hdead⟩ := hrow p hp
      rw [hp] at hc
      rcases hc.of_delivered hprocessed hdead with hx | hx
      · cases hx
        exact ⟨hprocessed, hdead⟩
      · cases hx
  | none =>
      rw [hp] at hc
      cases hc with
      | added rows _ hmem hid =>
          cases hasks
          obtain ⟨r₀, hr₀, hid₀⟩ := hadded
          rcases hb.kept r₀ hr₀ with ⟨q, hq, hsame⟩ | ⟨q, hq, hsame, -⟩
          · have hget := Store.get?_of_mem hq
            rw [Row.id_eq_of_asStaged (q := r₀) (hsame ▸ rfl), hid₀, hp] at hget
            cases hget
          · refine absurd ?_ (he r hmem q hq)
            rw [hid, ← hid₀, ← hsame]
            rfl

theorem move_phase (hm : S.Move e T) (he : KeepsIdsApart trace e) (hb : Books trace S.store)
    (hn : ∀ i, ((S.hands i).rows.map Row.id).Nodup) (hx : Exclusive trace S id)
    (hcrash : ∀ i, e = .crashed i → ¬ S.Owes i id) (hp : Phase trace S id) : Phase (trace ++ [e]) T id := by
  cases hp with
  | waiting hsent howes =>
      by_cases hsend : ∃ m ∈ e.messages, m.IsOf id
      · obtain ⟨m, hmem, hid⟩ := hsend
        obtain ⟨i, -, -, hi⟩ := move_sends hm hmem hid
        exact .owed i hsent.sentOnce_append hi
      · refine .waiting (hsent.mono fun m hmem hid => hsend ⟨m, hmem, hid⟩) fun i hi => ?_
        rcases move_owes hm hi with h | h
        · exact howes i h
        · exact hsend h
  | owed i hsent howes =>
      obtain ⟨⟨expiry, -, hl⟩, honly⟩ := hx i howes.holds
      have hquiet : ∀ m ∈ e.messages, ¬ m.IsOf id := by
        intro m hmem hid
        obtain ⟨j, hj, hne, -⟩ := move_sends hm hmem hid
        obtain rfl := honly j hj
        exact hne howes
      rcases move_owed hm howes with h | rfl | rfl
      · exact .owed i (hsent.mono hquiet) h
      · refine .delivered (hsent.mono hquiet) ?_ ?_ (move_delivered hm hl)
        · intro j hj
          rcases move_holds hm hj with h | ⟨_, _, h, -⟩
          · obtain rfl := honly j h
            exact (move_resolved hm (hn j) (.inl rfl)).2 hj
          · cases h
        · obtain ⟨p, hp, -⟩ := hl
          refine ⟨p.asStaged, mem_added.2 (.inl (hb.known p (.inl (Store.mem_of_get? hp)))), ?_⟩
          exact (show p.asStaged.id = p.id from rfl).trans (Store.id_of_get? hp)
      · exact absurd howes (hcrash i rfl)
  | delivered hsent hhands hadded hrow =>
      have hquiet : ∀ m ∈ e.messages, ¬ m.IsOf id := by
        intro m hmem hid
        obtain ⟨i, hi, -⟩ := move_sends hm hmem hid
        exact hhands i hi
      refine .delivered (hsent.mono hquiet) ?_ ?_ (move_stays hm he hb hadded hrow)
      · intro i hi
        rcases move_holds hm hi with h | ⟨now, batch, rfl, r, hr, rfl⟩
        · exact hhands i h
        · obtain ⟨-, q, _, _, hq, hclaim, -⟩ := move_claimed hm hr
          have hprocessed := (hrow q hq).1
          rw [Row.not_processed_of_claimable hclaim] at hprocessed
          cases hprocessed
      · obtain ⟨r, hr, hid⟩ := hadded
        exact ⟨r, mem_added.2 (.inl hr), hid⟩

theorem history_custody (h : History trace S) (hspares : Spares trace) (hnot : ¬ Overtaken trace id) :
    Exclusive trace S id ∧ Phase trace S id := by
  -- both at once: that a message is the only one rests on who has the row in hand
  induction h with
  | start =>
      refine ⟨fun i hi => ?_, .waiting (fun m hm => ?_) ?_⟩
      · simp [Holds, Hand.rows] at hi
      · simp [accepted] at hm
      · rintro i ⟨r, rows, hh, -⟩
        cases hh
  | @step trace S e T h hm he ih =>
      obtain ⟨hx, hp⟩ := ih hspares.of_append fun h => hnot h.mono
      have hn := history_nodup h
      refine ⟨move_exclusive hm hn hnot hx, move_phase hm he (history_accounts h).1 hn hx ?_ hp⟩
      rintro i rfl ho
      obtain ⟨pre, m, mid, rfl, hmid⟩ := history_due h ho
      obtain ⟨id', hid'⟩ := hspares pre i m mid [] rfl
      exact hmid id' hid'

end Floor

namespace Fleet

variable {ι : Type} [DecidableEq ι]

/-- When no worker crashes on an accepted message, a row of which two messages are accepted was claimed
after the end of an earlier lease whose worker still had to resolve it. So where every claim finds the
earlier ones resolved, no row is accepted twice. -/
theorem twice_overtaken {trace : List (FleetEvent ι)} {F : Fleet ι} (h : Run trace F) (hspares : Spares trace)
    (id : EventId) :
    (∀ m m', [m, m'].Sublist (accepted trace) → m.IsOf id → m'.IsOf id → Overtaken trace id) ∧
      (Orderly trace id → ∀ m m', [m, m'].Sublist (accepted trace) → ¬ (m.IsOf id ∧ m'.IsOf id)) := by
  obtain ⟨S, hh, -⟩ := Floor.run_history h
  have honce (hnot : ¬ Overtaken trace id) (m m' : Message) (hsub : [m, m'].Sublist (accepted trace)) :
      ¬ (m.IsOf id ∧ m'.IsOf id) :=
    List.pairwise_iff_forall_sublist.1 (Floor.history_custody hh hspares hnot).2.sentOnce hsub
  refine ⟨fun m m' hsub hm hm' => ?_, fun horderly => honce horderly.not_overtaken⟩
  by_contra hnot
  exact honce hnot m m' hsub ⟨hm, hm'⟩

def sampleFailure : PublishError := .unavailable "down"

def sampleRetry (stop : UInt64) : Row :=
  ((sampleLease 1).failed sampleFailure.message .epoch .standard).leasedTo "quick" (Time.epoch.later stop)

def retrying : List (FleetEvent Bool) :=
  [.added [Row.sample 7], .busy false, .busy false, .claimed false .epoch [sampleLease 1], .busy false,
    .rejected false sampleMessage sampleFailure, .busy false, .failed false ⟨.ofNat 7⟩, .busy false, .busy true,
    .busy true, .claimed true (Time.epoch.later 2) [sampleRetry 3], .busy true, .accepted true sampleMessage,
    .busy true, .processed true ⟨.ofNat 7⟩]

theorem retrying_run : ∃ F, Run retrying F := by
  have h := added_run
    |>.next (.start _ false _ quick false rfl) rfl
    |>.next (.now _ false _ .epoch rfl) rfl
    |>.next (.claim _ false _ _ _ _ _ [sampleLease 1] (Store.empty.put (sampleLease 1)) rfl (by decide +kernel)) rfl
    |>.next (.log _ false _ _ rfl) rfl
    |>.next (.reject _ false sampleMessage _ sampleFailure rfl) rfl
    |>.next (.now _ false _ .epoch rfl) rfl
    |>.next (.markFailed _ false _ _ _ _ _ rfl) rfl
    |>.next (.log _ false _ _ rfl) rfl
    |>.next (.start _ true _ quick false rfl) rfl
    |>.next (.now _ true _ (Time.epoch.later 2) rfl) rfl
    |>.next (.claim _ true _ _ _ _ _ [sampleRetry 3] (Store.empty.put (sampleRetry 3)) rfl (by decide +kernel)) rfl
    |>.next (.log _ true _ _ rfl) rfl
    |>.next (.accept _ true sampleMessage _ rfl) rfl
    |>.next (.now _ true _ (Time.epoch.later 2) rfl) rfl
    |>.next (.markProcessed _ true _ _ _ rfl) rfl
  exact ⟨_, h⟩

theorem retrying_orderly (id : EventId) : Orderly retrying id := by
  rintro pre j now batch post h hr i expiry ⟨pre', now', batch', post', rfl, hclaim, -, hfailed⟩
  simp [retrying, List.cons_eq_append_iff, List.append_eq_cons_iff] at h
  obtain ⟨-, ⟨rfl, -, rfl⟩, rfl, -⟩ := h
  obtain ⟨r, hmem, hid, -⟩ := hclaim
  obtain rfl := List.mem_singleton.1 hmem
  obtain rfl : ⟨.ofNat 7⟩ = id := hid
  exact hfailed (by simp)

/-- The first run has the row published twice, the second one only once, though it is claimed twice. -/
theorem twice_overtaken_lapsed :
    (∃ F, Run overtaking F) ∧ Overtaken overtaking ⟨.ofNat 7⟩ ∧ (∃ F, Run retrying F) ∧
      ∀ m m', [m, m'].Sublist (accepted retrying) → ¬ (m.IsOf ⟨.ofNat 7⟩ ∧ m'.IsOf ⟨.ofNat 7⟩) := by
  obtain ⟨F, h⟩ := overtaking_run
  obtain ⟨G, h'⟩ := retrying_run
  have hsent : sampleMessage.IsOf ⟨.ofNat 7⟩ := ⟨Row.sample 7, rfl, rfl⟩
  have hspares : Spares overtaking := spares_of_no_crash (by simp [overtaking])
  have hspares' : Spares retrying := spares_of_no_crash (by simp [retrying])
  refine ⟨⟨F, h⟩, ?_, ⟨G, h'⟩, (twice_overtaken h' hspares' _).2 (retrying_orderly _)⟩
  refine (twice_overtaken h hspares _).1 sampleMessage sampleMessage ?_ hsent hsent
  exact List.Sublist.refl _

end Fleet

end Outbox
