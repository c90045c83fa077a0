import Outbox.Proofs.Store.Effects

namespace Outbox.Store

inductive Operation
  | add (rows : List Row)
  | claim (take : Nat) (worker : String) (lease : Duration) (now : Time)
  | markProcessed (id : EventId) (now : Time)
  | markFailed (id : EventId) (error : String) (now : Time) (policy : RetryPolicy)
  | get (id : EventId)
  | deadLetters (limit : Nat)
  | requeue (id : EventId)
  | purge (before : Time)
  | stats (now : Time)

inductive Reply
  | done
  | rows (rows : List Row)
  | failed (outcome : FailureOutcome)
  | row (row? : Option Row)
  | count (n : Nat)
  | stats (stats : StoreStats)
  | refused (e : StoreError)
deriving DecidableEq

def Reply.ofResult {α : Type} (tell : α → Reply) : Except StoreError α → Reply
  | .ok a => tell a
  | .error e => .refused e

/-- A refused operation leaves the store as it was. -/
def reply {α : Type} (s : Store) (tell : α → Reply × Store) : Except StoreError α → Reply × Store
  | .ok a => tell a
  | .error e => (.refused e, s)

def answer (s : Store) : Operation → Reply × Store
  | .add rows => s.reply (fun s' => (.done, s')) (s.add rows)
  | .claim take worker lease now => s.reply (fun (batch, s') => (.rows batch, s')) (s.claim take worker lease now)
  | .markProcessed id now => s.reply (fun s' => (.done, s')) (s.markProcessed id now)
  | .markFailed id error now policy =>
    s.reply (fun (outcome, s') => (.failed outcome, s')) (s.markFailed id error now policy)
  | .get id => (.row (s.get? id), s)
  | .deadLetters limit => (.rows (s.deadLetters limit), s)
  | .requeue id => s.reply (fun (r, s') => (.row (some r), s')) (s.requeue id)
  | .purge before => (.count (s.purge before).1, (s.purge before).2)
  | .stats now => (.stats (s.stats now), s)

def after (s : Store) (ops : List Operation) : Store := ops.foldl (fun s op => (s.answer op).2) s

@[simp]
theorem after_cons (s : Store) (op : Operation) (ops : List Operation) :
    s.after (op :: ops) = (s.answer op).2.after ops := rfl

def replies : Store → List Operation → List Reply
  | _, [] => []
  | s, op :: ops => (s.answer op).1 :: replies (s.answer op).2 ops

theorem reply_claim {s s' : Store} {take : Nat} {worker : String} {lease : Duration} {now : Time} {batch : List Row}
    (h : s.answer (.claim take worker lease now) = (.rows batch, s')) :
    s.claim take worker lease now = .ok (batch, s') := by
  simp only [answer, reply] at h
  split at h
  · rename_i a ha
    cases h
    exact ha
  · cases h

/-- Everything that one operation can do to the row of an id: the row before it and the row after it. -/
inductive Change (id : EventId) : Operation → Option Row → Option Row → Prop
  | same (op) (r) : Change id op r r
  | added (rows) (r) (hr : r ∈ rows) (hid : r.id = id) : Change id (.add rows) none (some r)
  | leased (take worker lease now expiry) (r) (hexpiry : leaseExpiry now lease = .ok expiry)
      (hclaim : r.isClaimable now = true) :
      Change id (.claim take worker lease now) (some r) (some (r.leasedTo worker expiry))
  | processed (now) (r) (hlive : r.isTerminal = false) :
      Change id (.markProcessed id now) (some r) (some (r.processed now))
  | failed (error now policy) (r) (hlive : r.isTerminal = false) :
      Change id (.markFailed id error now policy) (some r) (some (r.failed error now policy))
  | requeued (r) (hdead : r.isDeadLettered = true) : Change id (.requeue id) (some r) (some r.requeued)
  | purged (before t) (r) (ht : r.processedAt = some t) (hbefore : t < before) :
      Change id (.purge before) (some r) none

theorem change_put {s : Store} {op : Operation} {id i : EventId} {r q : Row} (hr : s.get? i = some r)
    (hq : q.id = r.id) (h : i = id → Change id op (some r) (some q)) :
    Change id op (s.get? id) ((s.put q).get? id) := by
  have hi := id_of_get? hr
  rw [get?_put]
  by_cases he : i = id
  · subst he
    rw [if_pos (hq.trans hi), hr]
    exact h rfl
  · rw [if_neg fun h => he (hi.symm.trans (hq.symm.trans h))]
    exact .same _ _

theorem change_add {s s' : Store} {rows : List Row} (h : s.add rows = .ok s') (id : EventId) :
    Change id (.add rows) (s.get? id) (s'.get? id) := by
  obtain ⟨-, hfresh, hget⟩ := add_eq_ok h
  rw [hget]
  cases hf : rows.find? (·.id = id) with
  | none => exact .same _ _
  | some r =>
      have hr := List.mem_of_find?_eq_some hf
      have hid : r.id = id := by simpa using List.find?_some hf
      rw [← hid, hfresh r hr]
      exact .added _ _ hr rfl

theorem change_claim {s s' : Store} {take : Nat} {worker : String} {lease : Duration} {now : Time} {batch : List Row}
    (h : s.claim take worker lease now = .ok (batch, s')) (id : EventId) :
    Change id (.claim take worker lease now) (s.get? id) (s'.get? id) := by
  obtain ⟨expiry, hexpiry, hc⟩ := claim_eq_ok h
  rw [hc.get?]
  cases hf : batch.find? (·.id = id) with
  | none => exact .same _ _
  | some r =>
      have hid : r.id = id := by simpa using List.find?_some hf
      obtain ⟨q, hq, hclaim, rfl⟩ := hc.leased r (List.mem_of_find?_eq_some hf)
      rw [← hid, hq]
      exact .leased _ _ _ _ _ _ hexpiry hclaim

theorem change_purge (s : Store) (before : Time) (id : EventId) :
    Change id (.purge before) (s.get? id) ((s.purge before).2.get? id) := by
  rw [get?_purge]
  cases hr : s.get? id with
  | none => exact .same _ _
  | some r =>
      rw [Option.filter_some]
      split
      · exact .same _ _
      · rename_i hp
        cases ht : r.processedAt with
        | none => simp [ht] at hp
        | some t => exact .purged _ t r ht (Time.not_le.1 (by simpa [ht] using hp))

theorem change_answer (s : Store) (op : Operation) (id : EventId) :
    Change id op (s.get? id) ((s.answer op).2.get? id) := by
  cases op with
  | add rows =>
      simp only [answer, reply]
      split
      · rename_i h
        exact change_add h id
      · exact .same _ _
  | claim take worker lease now =>
      simp only [answer, reply]
      split
      · rename_i h
        exact change_claim h id
      · exact .same _ _
  | markProcessed i now =>
      simp only [answer, reply]
      split
      · rename_i h
        obtain ⟨r, hr, rfl⟩ := markProcessed_eq_ok h
        split
        · exact .same _ _
        · rename_i hlive
          refine change_put hr rfl ?_
          rintro rfl
          exact .processed _ _ (by simpa using hlive)
      · exact .same _ _
  | markFailed i error now policy =>
      simp only [answer, reply]
      split
      · rename_i h
        obtain ⟨r, hr, ⟨-, -, hs⟩ | ⟨hlive, -, hs⟩⟩ := markFailed_eq_ok h
        · rw [hs]
          exact .same _ _
        · rw [hs]
          refine change_put hr rfl ?_
          rintro rfl
          exact .failed _ _ _ _ hlive
      · exact .same _ _
  | requeue i =>
      simp only [answer, reply]
      split
      · rename_i h
        obtain ⟨r, hr, hdead, -, hs⟩ := requeue_eq_ok h
        rw [hs]
        refine change_put hr rfl ?_
        rintro rfl
        exact .requeued _ hdead
      · exact .same _ _
  | purge before => exact change_purge s before id
  | get i | deadLetters limit | stats now => exact .same _ _

end Outbox.Store
