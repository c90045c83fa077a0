import Outbox.Proofs.Worker.Fleet

namespace Outbox

variable {ι : Type}

def FleetEvent.worker? : FleetEvent ι → Option ι
  | .busy i | .claimed i _ _ | .accepted i _ | .rejected i _ _ | .processed i _ | .failed i _ | .crashed i => some i
  | .added _ | .requeued _ | .purged _ => none

/-- What a step does to the hand of one worker. -/
inductive Hand.Turn (i : ι) : FleetEvent ι → Hand → Hand → Prop
  | rest (e h) (he : e.worker? = some i → e = .busy i) : Turn i e h h
  | drop (h) (hh : h.IsSettled) : Turn i (.busy i) h (.holding [])
  | claim (now batch) (hnodup : (batch.map Row.id).Nodup) : Turn i (.claimed i now batch) (.holding []) (.holding batch)
  | accept (r rows m) (hm : r.message? m.topic = .ok m) :
      Turn i (.accepted i m) (.holding (r :: rows)) (.accepted r rows)
  | reject (r rows m e) : Turn i (.rejected i m e) (.holding (r :: rows)) (.rejected r rows)
  | process (r rows) : Turn i (.processed i r.id) (.accepted r rows) (.holding rows)
  | fail (r rows h) (hh : h = .holding (r :: rows) ∨ h = .rejected r rows) : Turn i (.failed i r.id) h (.holding rows)
  | crash (h) : Turn i (.crashed i) h (.holding [])

namespace Hand.Turn

variable {i : ι} {e : FleetEvent ι} {h h' : Hand} {id : EventId}

theorem nodup (ht : Turn i e h h') (hn : (h.rows.map Row.id).Nodup) : (h'.rows.map Row.id).Nodup := by
  cases ht with
  | rest | accept | reject => exact hn
  | drop | crash => exact List.nodup_nil
  | claim now batch hnodup => exact hnodup
  | process r rows => exact (List.nodup_cons.1 hn).2
  | fail r rows _ hh =>
      rcases hh with rfl | rfl
      · exact (List.nodup_cons.1 hn).2
      · exact (List.nodup_cons.1 hn).2

theorem mem_rows (ht : Turn i e h h') (hid : id ∈ h'.rows.map Row.id) :
    id ∈ h.rows.map Row.id ∨ ∃ now batch, e = .claimed i now batch ∧ ∃ r ∈ batch, r.id = id := by
  cases ht with
  | rest | accept | reject => exact .inl hid
  | drop | crash => cases hid
  | claim now batch hnodup => exact .inr ⟨now, batch, rfl, List.mem_map.1 hid⟩
  | process r rows => exact .inl (List.mem_cons_of_mem _ hid)
  | fail r rows _ hh =>
      rcases hh with rfl | rfl
      · exact .inl (List.mem_cons_of_mem _ hid)
      · exact .inl (List.mem_cons_of_mem _ hid)

theorem resolved (ht : Turn i e h h') (hn : (h.rows.map Row.id).Nodup) (he : e = .processed i id ∨ e = .failed i id) :
    id ∈ h.rows.map Row.id ∧ id ∉ h'.rows.map Row.id := by
  cases ht with
  | rest _ _ hrest => rcases he with rfl | rfl <;> cases hrest rfl
  | process r rows =>
      obtain ⟨⟩ : r.id = id := by simpa using he
      exact ⟨List.mem_cons_self .., (List.nodup_cons.1 hn).1⟩
  | fail r rows _ hh =>
      obtain ⟨⟩ : r.id = id := by simpa using he
      rcases hh with rfl | rfl
      · exact ⟨List.mem_cons_self .., (List.nodup_cons.1 hn).1⟩
      · exact ⟨List.mem_cons_self .., (List.nodup_cons.1 hn).1⟩
  | drop | claim | accept | reject | crash => simp at he

theorem sends {m : Message} (ht : Turn i (.accepted i m) h h') :
    ∃ r rows, h = .holding (r :: rows) ∧ h' = .accepted r rows ∧ r.message? m.topic = .ok m := by
  cases ht with
  | rest _ _ hrest => cases hrest rfl
  | accept r rows _ hm => exact ⟨r, rows, rfl, rfl, hm⟩

theorem of_accepted {r : Row} {rows : List Row} (ht : Turn i e h (.accepted r rows)) :
    h = .accepted r rows ∧ (e.worker? = some i → e = .busy i) ∨
      ∃ m, e = .accepted i m ∧ r.message? m.topic = .ok m := by
  cases ht with
  | rest _ _ hrest => exact .inl ⟨rfl, hrest⟩
  | accept _ _ m hm => exact .inr ⟨m, rfl, hm⟩

theorem accepted {r : Row} {rows : List Row} (ht : Turn i e (.accepted r rows) h') :
    h' = .accepted r rows ∨ e = .processed i r.id ∨ e = .crashed i := by
  cases ht with
  | rest => exact .inl rfl
  | drop _ hsettled => exact hsettled.elim
  | process => exact .inr (.inl rfl)
  | fail _ _ _ hh => rcases hh with hh | hh <;> cases hh
  | crash => exact .inr (.inr rfl)

end Hand.Turn

inductive FleetEvent.Asks (id : EventId) : FleetEvent ι → Store.Operation → Prop
  | claim (i take worker lease now batch) (hr : ∃ r ∈ batch, r.id = id) :
      Asks id (.claimed i now batch) (.claim take worker lease now)
  | process (i id' now) : Asks id (.processed i id') (.markProcessed id' now)
  | fail (i id' error now policy) : Asks id (.failed i id') (.markFailed id' error now policy)
  | add (rows) : Asks id (.added rows) (.add rows)
  | requeue (id') : Asks id (.requeued id') (.requeue id')
  | purge (before rows) : Asks id (.purged rows) (.purge before)

namespace Floor

variable [DecidableEq ι] {S T : Floor ι} {e : FleetEvent ι}

theorem turn_set {i j : ι} {h : Hand} (he : e.worker? = some i) (ht : Hand.Turn i e (S.hands i) h) :
    Hand.Turn j e (S.hands j) ((S.set i h).hands j) := by
  by_cases hj : j = i
  · subst hj
    simpa [set] using ht
  · have hhand : (S.set i h).hands j = S.hands j := Function.update_of_ne hj _ _
    rw [hhand]
    refine .rest _ _ fun hw => ?_
    rw [he] at hw
    exact absurd (Option.some.inj hw).symm hj

theorem move_turn (hm : S.Move e T) (j : ι) : Hand.Turn j e (S.hands j) (T.hands j) := by
  cases hm with
  | rest i =>
      refine .rest _ _ ?_
      rintro ⟨⟩
      rfl
  | drop i h => exact turn_set rfl (.drop _ h)
  | claim i take worker lease t batch s h hs =>
      obtain ⟨_, -, hc⟩ := Store.claim_eq_ok hs
      refine turn_set (S := S.ask _) rfl ?_
      rw [show (S.ask (.claim take worker lease t)).hands i = .holding [] from h]
      exact .claim t batch hc.nodup
  | accept i r rows m h hm => exact turn_set rfl (h ▸ .accept r rows m hm)
  | reject i r rows m e h hm => exact turn_set rfl (h ▸ .reject r rows m e)
  | process i r rows t h => exact turn_set (S := S.ask _) rfl (h ▸ .process r rows)
  | fail i r rows error t policy h => exact turn_set (S := S.ask _) rfl (.fail r rows _ h)
  | crash i => exact turn_set rfl (.crash _)
  | add | requeue | purge =>
      refine .rest _ _ ?_
      rintro ⟨⟩

theorem store_claim {i : ι} {take : Nat} {worker : String} {lease : Duration} {now : Time} {batch : List Row}
    {s : Store} (h : S.store.claim take worker lease now = .ok (batch, s)) :
    ((S.ask (.claim take worker lease now)).set i (.holding batch)).store = s := by
  simp [set, ask, Store.answer, Store.reply, h]

theorem move_row (hm : S.Move e T) (id : EventId) : T.store.get? id = S.store.get? id ∨
    ∃ op, e.Asks id op ∧ Store.Change id op (S.store.get? id) (T.store.get? id) := by
  cases hm with
  | rest | drop | accept | reject | crash => exact .inl rfl
  | claim i take worker lease t batch s h hs =>
      by_cases hr : ∃ r ∈ batch, r.id = id
      · exact .inr ⟨_, .claim _ _ _ _ _ _ hr, Store.change_answer _ _ id⟩
      · obtain ⟨_, -, hc⟩ := Store.claim_eq_ok hs
        have hnone : batch.find? (·.id = id) = none := Store.find?_id_eq_none.2 fun r hmem he => hr ⟨r, hmem, he⟩
        rw [store_claim hs, hc.get?, hnone]
        exact .inl rfl
  | process => exact .inr ⟨_, .process .., Store.change_answer _ _ id⟩
  | fail => exact .inr ⟨_, .fail .., Store.change_answer _ _ id⟩
  | add => exact .inr ⟨_, .add .., Store.change_answer _ _ id⟩
  | requeue => exact .inr ⟨_, .requeue .., Store.change_answer _ _ id⟩
  | purge => exact .inr ⟨_, .purge .., Store.change_answer _ _ id⟩

theorem move_claimed {i : ι} {now : Time} {batch : List Row} (hm : S.Move (.claimed i now batch) T) {r : Row}
    (hr : r ∈ batch) : T.store.get? r.id = some r ∧ ∃ q worker expiry, S.store.get? r.id = some q ∧
      q.isClaimable now = true ∧ r = q.leasedTo worker expiry := by
  cases hm with
  | claim _ take worker lease _ _ s h hs =>
      obtain ⟨expiry, -, hc⟩ := Store.claim_eq_ok hs
      obtain ⟨q, hq, hclaim, heq⟩ := hc.leased r hr
      refine ⟨?_, q, worker, expiry, hq, hclaim, heq⟩
      rw [store_claim hs]
      exact hc.get?_of_mem hr

end Floor

end Outbox
