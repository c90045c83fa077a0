import Mathlib.Logic.Function.Basic
import Outbox.Proofs.Account.Draft
import Outbox.Proofs.Store.Effects

namespace Outbox

def Row.record? (r : Row) : Option (EventRecord AccountEvent) := (EventRecord.parse r.payload).toOption

/-- Services that share their stores, each with ids of its own. -/
structure Office (ι : Type) where
  accounts : AccountStore
  store : Store
  ids : ι → IdSource

/-- A request to one of the services, at the time that its clock shows, and how it will go through the accounts. -/
structure Call (ι : Type) where
  service : ι
  order : SearchOrder
  now : Time
  correlationId : Option String
  request : AccountRequest

namespace Office

open AccountService

variable {ι : Type} [DecidableEq ι]

def opened (ids : ι → IdSource) : Office ι := ⟨.empty, .empty, ids⟩

omit [DecidableEq ι] in
def ledger (o : Office ι) (c : Call ι) : Ledger := ⟨o.accounts, o.store, o.ids c.service⟩

def answer (o : Office ι) (c : Call ι) : Answer := (handle (o.ledger c) c.order c.now c.correlationId c.request).value

def serve (o : Office ι) (c : Call ι) : Office ι :=
  let l := (o.answer c).2
  ⟨l.accounts, l.store, Function.update o.ids c.service l.ids⟩

def committed (o : Office ι) (c : Call ι) : List Row :=
  match (draft o.accounts c.order (o.ids c.service) c.now c.correlationId c.request).value.1, (o.answer c).1 with
  | .ok d, .ok _ => d.unit.staged
  | _, _ => []

def after (o : Office ι) (cs : List (Call ι)) : Office ι := cs.foldl serve o

def journal (o : Office ι) : List (Call ι) → List Row
  | [] => []
  | c :: cs => o.committed c ++ (o.serve c).journal cs

theorem serve_cases (o : Office ι) (c : Call ι) :
    (∃ left, o.committed c = [] ∧ o.serve c = ⟨o.accounts, o.store, Function.update o.ids c.service left⟩ ∧
      left.id = (o.ids c.service).id ∧ (o.ids c.service).taken ≤ left.taken) ∨
    ∃ b es rest store, Granted o.accounts c.order (o.ids c.service) c.now c.request b es rest ∧
      o.committed c = AccountEvent.rowsOf c.correlationId c.now es rest ∧ o.store.add (o.committed c) = .ok store ∧
      o.serve c = ⟨o.accounts.put b, store,
        Function.update o.ids c.service (AccountEvent.recordAll c.now es rest).2⟩ := by
  unfold committed serve answer
  rcases handle_cases (o.ledger c) c.order c.now c.correlationId c.request with
    ⟨e, left, he, hlater⟩ | ⟨d, es, rest, store, hgrant, hd, hstaged, hadd, he⟩
  · rw [he]
    refine .inl ⟨left, ?_, rfl, hlater⟩
    split
    · rename_i h
      cases h
    · rfl
  · rw [he, show (draft o.accounts c.order (o.ids c.service) c.now c.correlationId c.request).value.1 = _ from hd]
    exact .inr ⟨d.account, es, rest, store, hgrant, hstaged, hadd, rfl⟩

end Office

def AccountId.records (id : AccountId) (rows : List Row) : List (EventRecord AccountEvent) :=
  (rows.filter (·.aggregateId = some id.simple)).filterMap Row.record?

def AccountId.events (id : AccountId) (rows : List Row) : List AccountEvent := (id.records rows).map (·.body)

/-- The times of an account are those of its last creation and of what happened to it since. -/
def Account.Dated (a : Account) (rs : List (EventRecord AccountEvent)) : Prop :=
  ∃ pre c post, rs = pre ++ c :: post ∧
    (∃ name cpf isActive isDeleted, c.body = .created a.id name cpf isActive isDeleted a.createdAt) ∧
    (∀ r ∈ post, r.body.kind ≠ .created) ∧ a.updatedAt = post.getLast?.map (·.occurredAt)

namespace AccountId

variable {id : AccountId} {rows : List Row} {es : List AccountEvent} {rs : List (EventRecord AccountEvent)} {now : Time}

theorem records_append (id : AccountId) (rows rows' : List Row) :
    id.records (rows ++ rows') = id.records rows ++ id.records rows' := by
  simp [records]

theorem events_append (id : AccountId) (rows rows' : List Row) :
    id.events (rows ++ rows') = id.events rows ++ id.events rows' := by
  simp [events, records_append]

end AccountId

namespace Row

variable {now : Time} {e : AccountEvent} {r : EventRecord AccountEvent}

theorem record?_ofRecord (correlationId : Option String) (createdAt : Time) (r : EventRecord AccountEvent) :
    (ofRecord correlationId createdAt r).record? = some { r with aggregate := none } := by
  simp only [record?, ofRecord, staged, EventRecord.parse_text]
  rfl

theorem aggregateId_ofRecord (correlationId : Option String) (h : AccountEvent.Records now e r) :
    (ofRecord correlationId now r).aggregateId = some e.account.simple := by
  obtain ⟨id, rfl⟩ := h
  rfl

end Row

namespace AccountId

variable {id : AccountId} {es : List AccountEvent} {rs : List (EventRecord AccountEvent)} {now : Time}

theorem records_own (correlationId : Option String) (h : List.Forall₂ (AccountEvent.Records now) es rs)
    (hid : ∀ e ∈ es, e.account = id) :
    id.events (rs.map (Row.ofRecord correlationId now)) = es ∧
      ∀ r ∈ id.records (rs.map (Row.ofRecord correlationId now)), r.occurredAt = now := by
  induction h with
  | nil => exact ⟨rfl, by simp [records]⟩
  | @cons e r es rs hr _ ih =>
      obtain ⟨rfl, hes⟩ := List.forall_mem_cons.1 hid
      obtain ⟨hevents, hnow⟩ := ih hes
      have habout := Row.aggregateId_ofRecord correlationId hr
      have hcons : e.account.records ((r :: rs).map (Row.ofRecord correlationId now)) =
          { r with aggregate := none } :: e.account.records (rs.map (Row.ofRecord correlationId now)) := by
        rw [List.map_cons, records, List.filter_cons_of_pos (by simpa using habout),
          List.filterMap_cons_some (Row.record?_ofRecord ..)]
        rfl
      obtain ⟨eid, rfl⟩ := hr
      rw [events, hcons]
      exact ⟨congrArg (e :: ·) hevents, List.forall_mem_cons.2 ⟨rfl, hnow⟩⟩

theorem records_other {id' : AccountId} (correlationId : Option String)
    (h : List.Forall₂ (AccountEvent.Records now) es rs) (hid : ∀ e ∈ es, e.account = id) (hne : id ≠ id') :
    id'.records (rs.map (Row.ofRecord correlationId now)) = [] := by
  induction h with
  | nil => rfl
  | @cons e r es rs hr _ ih =>
      obtain ⟨rfl, hes⟩ := List.forall_mem_cons.1 hid
      have hother : (Row.ofRecord correlationId now r).aggregateId ≠ some id'.simple := by
        rw [Row.aggregateId_ofRecord correlationId hr]
        exact fun h => hne (simple_injective (Option.some.inj h))
      rw [List.map_cons, records, List.filter_cons_of_neg (by simpa using hother)]
      exact ih hes

end AccountId

namespace Account

variable {a b : Account} {now : Time} {rs news : List (EventRecord AccountEvent)} {es : List AccountEvent}

theorem dated_of_created {name : AccountName} {cpf : Cpf} {id : AccountId} (hnew : news.map (·.body) =
    [.ofCreated (.create id name cpf now)]) : (create id name cpf now).Dated (rs ++ news) := by
  obtain ⟨c, rfl, hc⟩ := List.map_eq_singleton_iff.1 hnew
  exact ⟨rs, c, [], rfl, ⟨_, _, _, _, hc⟩, by simp, rfl⟩

theorem Tale.dated (h : a.Tale now b es) (hd : a.Dated rs) (hnew : news.map (·.body) = es)
    (hnow : ∀ r ∈ news, r.occurredAt = now) : b.Dated (rs ++ news) := by
  obtain ⟨pre, c, post, rfl, ⟨name, cpf, isActive, isDeleted, hc⟩, hpost, hupdated⟩ := hd
  refine ⟨pre, c, post ++ news, by simp, ⟨name, cpf, isActive, isDeleted, ?_⟩, ?_, ?_⟩
  · rw [hc, h.id, h.createdAt]
  · intro r hr
    rcases List.mem_append.1 hr with hr | hr
    · exact hpost r hr
    · exact (h.about r.body (hnew ▸ List.mem_map_of_mem hr)).2
  · rw [h.updatedAt, List.getLast?_append]
    cases hlast : news.getLast? with
    | none =>
        obtain rfl := List.getLast?_eq_none_iff.1 hlast
        have hnil : es = [] := hnew.symm
        rw [if_pos hnil, hupdated]
        rfl
    | some r =>
        have hr := List.mem_of_getLast? hlast
        have hne : es ≠ [] := by
          rintro rfl
          rw [List.map_eq_nil_iff.1 hnew] at hr
          cases hr
        rw [if_neg hne, Option.some_or, Option.map_some, hnow r hr]

end Account

namespace Office

open AccountService AccountEvent

variable {ι : Type} [DecidableEq ι]

/-- The rows of a journal are those in the store, each can be read, and they tell of each account what
it was before each event and what it is now. -/
structure Faithful (o : Office ι) (rows : List Row) : Prop where
  stored : ∀ r, r ∈ o.store.rows.entries ↔ r ∈ rows
  readable : ∀ r ∈ rows, ∃ e, r.record? = some e ∧ e.id = r.id ∧ e.occurredAt = r.occurredAt ∧
    r.aggregateId = some e.body.account.simple
  truthful : ∀ id : AccountId, Truthful none (id.events rows)
  replayed : ∀ id, replay none (id.events rows) = (o.accounts.get? id).map Account.profile
  dated : ∀ id a, o.accounts.get? id = some a → a.Dated (id.records rows)

theorem readable_ofRecord {now : Time} {correlationId : Option String} {es : List AccountEvent}
    {rs : List (EventRecord AccountEvent)} (h : List.Forall₂ (Records now) es rs) :
    ∀ r ∈ rs.map (Row.ofRecord correlationId now), ∃ e, r.record? = some e ∧ e.id = r.id ∧
      e.occurredAt = r.occurredAt ∧ r.aggregateId = some e.body.account.simple := by
  induction h with
  | nil => simp
  | @cons e r es rs hr _ ih =>
      refine List.forall_mem_cons.2 ⟨⟨_, Row.record?_ofRecord .., rfl, rfl, ?_⟩, ih⟩
      obtain ⟨eid, rfl⟩ := hr
      rfl

omit [DecidableEq ι] in
theorem Faithful.told {o : Office ι} {rows news : List Row} {now : Time} {b : Account} {es : List AccountEvent}
    (h : o.Faithful rows) (hout : Outcome o.accounts now b es) (hown : b.id.events news = es)
    (hnow : ∀ r ∈ b.id.records news, r.occurredAt = now) :
    Truthful (replay none (b.id.events rows)) es ∧ replay (replay none (b.id.events rows)) es = some b.profile ∧
      b.Dated (b.id.records rows ++ b.id.records news) := by
  cases hout with
  | created id name cpf => exact ⟨⟨trivial, trivial⟩, rfl, Account.dated_of_created hown⟩
  | changed a _ _ ha htale =>
      rw [htale.id] at hown hnow ⊢
      rw [h.replayed, ha]
      exact ⟨htale.truthful, htale.replay, htale.dated (h.dated _ a ha) hown hnow⟩

theorem serve_faithful {o : Office ι} {rows : List Row} (h : o.Faithful rows) (c : Call ι) :
    (o.serve c).Faithful (rows ++ o.committed c) := by
  rcases o.serve_cases c with ⟨left, hnone, hserve, -⟩ | ⟨b, es, rest, store, hgrant, hrows, hadd, hserve⟩
  · rw [hnone, List.append_nil, hserve]
    exact ⟨h.stored, h.readable, h.truthful, h.replayed, h.dated⟩
  rw [hserve]
  have hout := hgrant.outcome
  have hrs := AccountEvent.recordAll_records c.now es rest
  unfold AccountEvent.rowsOf at hrows
  obtain ⟨hown, hnow⟩ := AccountId.records_own c.correlationId hrs hout.about
  have hother {id : AccountId} (hne : b.id ≠ id) : id.records (o.committed c) = [] := by
    rw [hrows]
    exact AccountId.records_other c.correlationId hrs hout.about hne
  have hnothing {id : AccountId} (hne : b.id ≠ id) : id.events (o.committed c) = [] := by
    rw [AccountId.events, hother hne]
    rfl
  rw [← hrows] at hown hnow
  -- from here on the account of the call is told apart from all others
  obtain ⟨htruthful, hreplayed, hdated⟩ := h.told hout hown hnow
  refine ⟨?_, ?_, ?_, ?_, ?_⟩
  · intro r
    rw [Store.mem_of_add hadd, List.mem_append, h.stored, or_comm]
  · intro r hr
    rcases List.mem_append.1 hr with hr | hr
    · exact h.readable r hr
    · rw [hrows] at hr
      exact readable_ofRecord hrs r hr
  · intro id
    rw [AccountId.events_append, truthful_append]
    refine ⟨h.truthful id, ?_⟩
    by_cases hid : b.id = id
    · subst hid
      rw [hown]
      exact htruthful
    · rw [hnothing hid]
      trivial
  · intro id
    rw [AccountId.events_append, replay_append, AccountStore.get?_put]
    by_cases hid : b.id = id
    · subst hid
      rw [hown, hreplayed, if_pos rfl, Option.map_some]
    · rw [hnothing hid, if_neg hid]
      exact h.replayed id
  · intro id a ha
    rw [AccountStore.get?_put] at ha
    rw [AccountId.records_append]
    by_cases hid : b.id = id
    · subst hid
      rw [if_pos rfl] at ha
      cases ha
      exact hdated
    · rw [if_neg hid] at ha
      rw [hother hid, List.append_nil]
      exact h.dated id a ha

theorem after_faithful {o : Office ι} {rows : List Row} (h : o.Faithful rows) (cs : List (Call ι)) :
    (o.after cs).Faithful (rows ++ o.journal cs) := by
  induction cs generalizing o rows with
  | nil => simpa [after, journal] using h
  | cons c cs ih =>
      rw [journal, ← List.append_assoc]
      exact ih (serve_faithful h c)

omit [DecidableEq ι] in
theorem faithful_opened (ids : ι → IdSource) : (opened ids).Faithful [] := by
  refine ⟨?_, by simp, fun _ => trivial, fun _ => rfl, ?_⟩
  · simp [opened, Store.empty, Table.empty]
  · intro id a ha
    cases ha

/-- Whatever is asked of services that start with nothing, their rows tell the truth about their accounts. -/
theorem journal_faithful (ids : ι → IdSource) (cs : List (Call ι)) :
    ((opened ids).after cs).Faithful ((opened ids).journal cs) :=
  after_faithful (faithful_opened ids) cs

example : ((opened fun _ : Unit => .sequential 1).journal
    [⟨(), .byId, .epoch, none, .create "Ana" "11144477735"⟩,
      ⟨(), .byId, .epoch, none, .changeName ⟨.ofWord 1⟩ "Bea"⟩]).map
      (·.eventType) = ["accounts.account.created", "accounts.account.name_changed", "accounts.account.updated"] := by
  decide +kernel

end Office

end Outbox
