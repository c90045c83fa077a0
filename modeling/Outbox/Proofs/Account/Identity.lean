import Outbox.Proofs.Account.Effect
import Outbox.Proofs.Account.Journal
import Outbox.Proofs.Store.Ledger

namespace Outbox

namespace IdSource

def IsSequential (first : UInt64) (s : IdSource) : Prop := s.id = (sequential first).id

variable {first : UInt64} {s : IdSource}

/-- The ids are drawn in pairs of neighbours, wherever the source stands and also where the words start over. -/
theorem IsSequential.take_take (h : s.IsSequential first) :
    ∃ n, s.take.1 = .ofWord n ∧ s.take.2.take.1 = .ofWord (n + 1) := by
  refine ⟨first + UInt64.ofNat s.taken, congrFun h s.taken, ?_⟩
  rw [UInt64.add_assoc]
  exact (congrFun h (s.taken + 1)).trans (congrArg (Uuid.ofWord <| first + ·) (UInt64.ofNat_add ..))

end IdSource

namespace Uuid

theorem ofWord_injective : Function.Injective ofWord := by
  intro m n h
  exact UInt64.toNat_inj.1 (congrArg value h)

end Uuid

namespace Store

variable {s s' : Store} {r : Row} {rows : List Row} {id : EventId} {op : Operation}

theorem add_taken (h : id ∈ s.ids) (hr : r.id = id) : s.add (r :: rows) = .error (.alreadyExists id) := by
  subst hr
  rw [add, clash?, if_pos (.inl (mem_ids.1 h))]

theorem mem_ids_add (h : s.add rows = .ok s') : id ∈ s'.ids ↔ id ∈ rows.map (·.id) ∨ id ∈ s.ids := by
  simp only [ids, List.mem_map, mem_of_add h]
  grind

theorem free_of_add (h : s.add rows = .ok s') (hr : r ∈ rows) : r.id ∉ s.ids := by
  rw [mem_ids, (add_eq_ok h).2.1 r hr]
  exact Bool.false_ne_true

theorem mem_ids_kept (hop : ∀ before, op ≠ .purge before) (h : id ∈ s.ids) : id ∈ (s.answer op).2.ids := by
  refine ((mem_ids_answer s op id).2 (.inl h)).resolve_right ?_
  cases op with
  | purge before => exact absurd rfl (hop before)
  | _ => exact List.not_mem_nil

end Store

namespace AccountService

variable {order : SearchOrder} {name cpf : String} {n : AccountName} {c : Cpf} {id : EventId}

theorem draft_create (l : Ledger) (now : Time) (correlationId : Option String) (hn : AccountName.of? name = .ok n)
    (hc : Cpf.of? cpf = .ok c) (hfree : cpfIsTaken l.accounts order c none = false) :
    (draft l.accounts order l.ids now correlationId (.create name cpf)).value =
      (prepare l.ids.take.2 now correlationId "account created" (.create ⟨l.ids.take.1⟩ n c now)
        [.ofCreated (.create ⟨l.ids.take.1⟩ n c now)]).value := by
  simp [draft, create, hn, hc, hfree]

theorem handle_create_taken (l : Ledger) (now : Time) (correlationId : Option String)
    (hn : AccountName.of? name = .ok n) (hc : Cpf.of? cpf = .ok c) (hfree : cpfIsTaken l.accounts order c none = false)
    (hid : l.ids.take.2.take.1 = id.uuid) (htaken : id ∈ l.store.ids) :
    (handle l order now correlationId (.create name cpf)).value =
      (.error (.commit (.alreadyExists id)), { l with ids := l.ids.take.2.take.2 }) := by
  have hdraft := draft_create l now correlationId hn hc hfree
  rw [prepare_eq] at hdraft
  rw [handle_of_draft hdraft, commit_of_error (e := .alreadyExists id)]
  · rfl
  · exact congrArg (· >>= _) (Store.add_taken htaken (congrArg EventId.mk hid))

end AccountService

namespace Office

open AccountService

inductive Act (ι : Type)
  | call (c : Call ι)
  | outbox (op : Store.Operation)

variable {ι : Type} [DecidableEq ι] {first : ι → UInt64} {o : Office ι} {c : Call ι} {name cpf : String} {a : Account}

def attend (o : Office ι) : Act ι → Office ι
  | .call c => o.serve c
  | .outbox op => { o with store := (o.store.answer op).2 }

def attendAll (o : Office ι) (es : List (Act ι)) : Office ι := es.foldl attend o

/-- The ids come in order, and with each account there is a row in the outbox under the id after its own. -/
structure Paired (first : ι → UInt64) (o : Office ι) : Prop where
  sequential : ∀ i, (o.ids i).IsSequential (first i)
  row : ∀ a ∈ o.accounts.accounts.entries, ∃ n, a.id = ⟨.ofWord n⟩ ∧ ⟨.ofWord (n + 1)⟩ ∈ o.store.ids

omit [DecidableEq ι] in
theorem paired_opened (first : ι → UInt64) : (opened fun i => .sequential (first i)).Paired first := by
  refine ⟨fun _ => rfl, ?_⟩
  intro a ha
  cases ha

theorem sequential_serve (h : ∀ i, (o.ids i).IsSequential (first i)) (c : Call ι) :
    ∀ i, ((o.serve c).ids i).IsSequential (first i) := by
  have hupdate {left : IdSource} (hleft : left.id = (o.ids c.service).id) (i : ι) :
      (Function.update o.ids c.service left i).IsSequential (first i) := by
    by_cases hi : i = c.service
    · subst hi
      rw [Function.update_self]
      exact hleft.trans (h c.service)
    · rw [Function.update_of_ne hi]
      exact h i
  rcases o.serve_cases c with ⟨left, -, hserve, hleft, -⟩ | ⟨b, es, rest, store, hgrant, -, -, hserve⟩
  · rw [hserve]
    exact hupdate hleft
  · rw [hserve, (AccountEvent.recordAll_ids c.now es rest).2]
    exact hupdate hgrant.later.1

theorem Paired.serve (h : o.Paired first) (c : Call ι) : (o.serve c).Paired first := by
  refine ⟨sequential_serve h.sequential c, ?_⟩
  obtain ⟨service, order, now, correlationId, request⟩ := c
  rcases o.serve_cases ⟨service, order, now, correlationId, request⟩ with
    ⟨left, -, hserve, -⟩ | ⟨b, es, rest, store, hgrant, hrows, hadd, hserve⟩
  · rw [hserve]
    exact h.row
  rw [hserve]
  -- a creation brings the row of its account along, and a change leaves the one that is there
  intro a ha
  rcases AccountStore.mem_put.1 ha with rfl | ⟨ha, -⟩
  · cases hgrant with
    | created name cpf n c hn hc hfree =>
        obtain ⟨w, hfirst, hsecond⟩ := (h.sequential service).take_take
        refine ⟨w, congrArg AccountId.mk hfirst, (Store.mem_ids_add hadd).2 (.inl ?_)⟩
        rw [hrows, ← hsecond]
        exact List.mem_singleton_self _
    | changed request id c a₀ _ _ hask ha₀ hb =>
        obtain ⟨w, hw, hrow⟩ := h.row a₀ (AccountStore.get?_eq_some_iff.1 ha₀).1
        have htale := hask.isTold a₀ _ a es hb
        exact ⟨w, htale.id.trans hw, (Store.mem_ids_add hadd).2 (.inr hrow)⟩
  · obtain ⟨w, hw, hrow⟩ := h.row a ha
    exact ⟨w, hw, (Store.mem_ids_add hadd).2 (.inr hrow)⟩

theorem Paired.attend (h : o.Paired first) {e : Act ι} (he : ∀ before, e ≠ .outbox (.purge before)) :
    (o.attend e).Paired first := by
  cases e with
  | call c => exact h.serve c
  | outbox op =>
      refine ⟨h.sequential, fun a ha => ?_⟩
      obtain ⟨w, hw, hrow⟩ := h.row a ha
      exact ⟨w, hw, Store.mem_ids_kept (fun before hop => he before (congrArg _ hop)) hrow⟩

theorem Paired.attendAll (h : o.Paired first) {es : List (Act ι)}
    (hes : ∀ before, .outbox (.purge before) ∉ es) : (o.attendAll es).Paired first := by
  induction es generalizing o with
  | nil => exact h
  | cons e es ih =>
      have he (before : Time) : e ≠ .outbox (.purge before) := fun h => hes before (h ▸ List.mem_cons_self)
      exact ih (h.attend he) fun before hmem => hes before (List.mem_cons_of_mem e hmem)

theorem serve_refused {e : ServiceError} (h : (o.answer c).1 = .error e) :
    (o.serve c).accounts = o.accounts ∧ (o.serve c).store = o.store := by
  unfold serve answer at *
  rcases handle_cases (o.ledger c) c.order c.now c.correlationId c.request with
    ⟨e, left, he, -⟩ | ⟨d, es, rest, store, -, -, -, -, he⟩
  · rw [he]
    exact ⟨rfl, rfl⟩
  · rw [he] at h
    cases h

omit [DecidableEq ι] in
theorem answer_created (hc : c.request = .create name cpf) (ha : (o.answer c).1 = .ok a) :
    a.id = ⟨(o.ids c.service).take.1⟩ ∧ ⟨(o.ids c.service).take.2.take.1⟩ ∉ o.store.ids := by
  unfold answer at ha
  rcases handle_cases (o.ledger c) c.order c.now c.correlationId c.request with
    ⟨e, left, he, -⟩ | ⟨d, es, rest, store, hgrant, -, hstaged, hadd, he⟩
  · rw [he] at ha
    cases ha
  rw [he] at ha
  rw [Except.ok.inj ha, hc] at hgrant
  rw [hstaged] at hadd
  cases hgrant with
  | created name cpf n c hn hc hfree =>
      exact ⟨rfl, Store.free_of_add hadd (List.mem_singleton_self _)⟩
  | changed request id c a₀ _ _ hask => cases hask

omit [DecidableEq ι] in
theorem Paired.created_fresh (h : o.Paired first) (hc : c.request = .create name cpf)
    (ha : (o.answer c).1 = .ok a) : o.accounts.get? a.id = none := by
  obtain ⟨hid, hfree⟩ := answer_created hc ha
  obtain ⟨w, hfirst, hsecond⟩ := (h.sequential c.service).take_take
  rw [hsecond] at hfree
  by_contra hstored
  obtain ⟨b, hb⟩ := Option.ne_none_iff_exists'.1 hstored
  obtain ⟨hmem, hsame⟩ := AccountStore.get?_eq_some_iff.1 hb
  obtain ⟨v, hv, hrow⟩ := h.row b hmem
  rw [hsame, hid, hfirst] at hv
  rw [Uuid.ofWord_injective (congrArg AccountId.uuid hv)] at hfree
  exact hfree hrow

omit [DecidableEq ι] in
theorem Paired.create_refused (h : o.Paired first) (hc : c.request = .create name cpf) {n : UInt64}
    (hnext : (o.ids c.service).take.1 = .ofWord n) (hstored : (o.accounts.get? ⟨.ofWord n⟩).isSome) :
    ∃ e, (o.answer c).1 = .error e ∧ ∀ who number, AccountName.of? name = .ok who → Cpf.of? cpf = .ok number →
      cpfIsTaken o.accounts c.order number none = false → e = .commit (.alreadyExists ⟨.ofWord (n + 1)⟩) := by
  cases he : (o.answer c).1 with
  | ok a =>
      have hfresh := h.created_fresh hc he
      rw [(answer_created hc he).1, hnext, Option.eq_none_iff_forall_not_mem] at hfresh
      obtain ⟨b, hb⟩ := Option.isSome_iff_exists.1 hstored
      exact absurd hb (hfresh b)
  | error e =>
      refine ⟨e, rfl, fun who number hwho hnumber hfree => ?_⟩
      obtain ⟨a, ha⟩ := Option.isSome_iff_exists.1 hstored
      obtain ⟨hmem, hid⟩ := AccountStore.get?_eq_some_iff.1 ha
      obtain ⟨v, hv, hrow⟩ := h.row a hmem
      obtain ⟨w, hfirst, hsecond⟩ := (h.sequential c.service).take_take
      obtain rfl : n = v := Uuid.ofWord_injective (congrArg AccountId.uuid (hid.symm.trans hv))
      obtain rfl : n = w := Uuid.ofWord_injective (hnext.symm.trans hfirst)
      have htaken := handle_create_taken (o.ledger c) c.now c.correlationId hwho hnumber hfree hsecond hrow
      rw [← hc] at htaken
      exact Except.error.inj (he.symm.trans (congrArg Prod.fst htaken))

/-- Wherever the ids of the services start, as long as no row is purged: each account has the row of its creation in
the outbox, no creation takes the id of a stored account, and one that is due such an id leaves no trace. -/
theorem accounts_never_overwritten (first : ι → UInt64) (es : List (Act ι))
    (hkept : ∀ before, .outbox (.purge before) ∉ es) :
    let o := (opened fun i => .sequential (first i)).attendAll es
    (∀ a ∈ o.accounts.accounts.entries, ∃ n, a.id = ⟨.ofWord n⟩ ∧ ∃ r, o.store.get? ⟨.ofWord (n + 1)⟩ = some r) ∧
    (∀ c name cpf a, c.request = .create name cpf → (o.answer c).1 = .ok a → o.accounts.get? a.id = none) ∧
    ∀ c name cpf n, c.request = .create name cpf → (o.ids c.service).take.1 = .ofWord n →
      (o.accounts.get? ⟨.ofWord n⟩).isSome → (o.serve c).accounts = o.accounts ∧ (o.serve c).store = o.store ∧
        ∃ e, (o.answer c).1 = .error e ∧ ∀ who number, AccountName.of? name = .ok who → Cpf.of? cpf = .ok number →
          cpfIsTaken o.accounts c.order number none = false → e = .commit (.alreadyExists ⟨.ofWord (n + 1)⟩) := by
  intro o
  have h : o.Paired first := (paired_opened first).attendAll hkept
  refine ⟨fun a ha => ?_, fun c name cpf a hc ha => h.created_fresh hc ha, fun c name cpf n hc hnext hstored => ?_⟩
  · obtain ⟨n, hn, hrow⟩ := h.row a ha
    exact ⟨n, hn, Option.isSome_iff_exists.1 (Store.mem_ids.1 hrow)⟩
  · obtain ⟨e, he, hwhy⟩ := h.create_refused hc hnext hstored
    obtain ⟨haccounts, hstore⟩ := serve_refused he
    exact ⟨haccounts, hstore, e, he, hwhy⟩

/-- Two services count from the last word, which the first of them has used for an account. -/
def twins : List (Act Bool) :=
  [.call ⟨true, .byId, .epoch, none, .create "Ana" "11144477735"⟩, .outbox (.claim 1 "w" (.ofSeconds 60) .epoch),
    .outbox (.markProcessed ⟨.ofWord 0⟩ .epoch)]

theorem accounts_never_overwritten_twins : let o := (opened fun _ => .sequential 0xffff_ffff_ffff_ffff).attendAll twins
    let c : Call Bool := ⟨false, .byId, .epoch, none, .create "Bea" "52998224725"⟩
    (o.serve c).accounts = o.accounts ∧ (o.answer c).1 = .error (.commit (.alreadyExists ⟨.ofWord 0⟩)) := by
  intro o c
  have hkept (before : Time) : .outbox (.purge before) ∉ twins := by simp [twins]
  obtain ⟨-, -, hrefused⟩ := accounts_never_overwritten (fun _ => 0xffff_ffff_ffff_ffff) twins hkept
  obtain ⟨haccounts, -, e, he, hwhy⟩ := hrefused c _ _ 0xffff_ffff_ffff_ffff rfl (by decide +kernel) (by decide +kernel)
  refine ⟨haccounts, ?_⟩
  rw [he, hwhy ⟨"Bea"⟩ ⟨"52998224725"⟩ (by rfl) (by rfl) (by decide +kernel)]
  rfl

end Office

end Outbox
