import Outbox.Proofs.Postgres.Mirror
import Outbox.Proofs.Store.Ledger

namespace Outbox.Postgres.Sql

/-- On a table of some rows a statement has a result, and leaves a table of other rows. -/
def Serves (stmt : Statement) (s : Outbox.Store) (Q : Result → Prop) (s' : Outbox.Store) : Prop :=
  ∃ w, stmt.work? = some w ∧ ∀ now table, Mirrors table s →
    ∃ result table', w.run now stmt.params table = .ok (result, table') ∧ Q result ∧ Mirrors table' s'

def Refuses (stmt : Statement) (s : Outbox.Store) (failure : Failure) : Prop :=
  ∃ w, stmt.work? = some w ∧ ∀ now table, Mirrors table s → w.run now stmt.params table = .error failure

theorem Serves.mono {stmt : Statement} {s s' : Outbox.Store} {Q Q' : Result → Prop} (h : Serves stmt s Q s')
    (hQ : ∀ result, Q result → Q' result) : Serves stmt s Q' s' := by
  obtain ⟨w, hwork, hrun⟩ := h
  refine ⟨w, hwork, fun now table hm => ?_⟩
  obtain ⟨result, table', hresult, hq, hm'⟩ := hrun now table hm
  exact ⟨result, table', hresult, hQ result hq, hm'⟩

def AllStorable (s : Outbox.Store) : Prop := ∀ r ∈ s.rows.entries, Storable r

variable {s s' : Outbox.Store} {r : Row} {id : EventId} {now expiry : Time} {worker : String} {limit : Nat}
  {p : Row → Bool}

theorem accept_of_mirrors {table : List Tuple} (h : Mirrors table s) (hs : AllStorable s) (result : Result) :
    accept table result = .ok (result, table) := by
  rw [accept, h.flaw?_eq_none hs]

theorem serves_select {stmt : Statement} {q : Query} {rows : List Row} (hwork : stmt.work? = some (.select q))
    (hrows : ∀ table, Mirrors table s → q.rows stmt.params table = rows.map ofRow) :
    Serves stmt s (·.records = rows.map fun r => record q.fields (ofRow r)) s := by
  refine ⟨_, hwork, fun now table h => ⟨_, table, rfl, ?_, h⟩⟩
  rw [hrows table h, List.map_map]
  rfl

theorem filter_ofId {ps : List Param} {table : List Tuple} (h : Mirrors table s)
    (hps : ps.getD 0 .null = .uuid id.uuid) :
    table.filter (Condition.ofId.selects ps) = (s.get? id).toList.map ofRow := by
  rw [h.filter_eq (p := fun _ => true) fun r => by rw [selects_ofId hps, Bool.and_true]]
  cases s.get? id <;> rfl

theorem rows_ofId {fields : List Field} {lock : Option Lock} {ps : List Param} {table : List Tuple}
    (h : Mirrors table s) (hps : ps.getD 0 .null = .uuid id.uuid) :
    (Query.mk fields .ofId [] none lock).rows ps table = (s.get? id).toList.map ofRow := by
  simp only [Query.rows, Option.map_none, filter_ofId h hps]
  cases s.get? id <;> simp

theorem take_clamped {α : Type} (l : List α) (limit : Nat) (h : l.length ≤ largestBigint) :
    l.take (min limit largestBigint) = l.take limit := by
  rcases Nat.le_total limit largestBigint with hle | hle
  · rw [Nat.min_eq_left hle]
  · rw [Nat.min_eq_right hle, List.take_of_length_le h, List.take_of_length_le (h.trans hle)]

theorem rows_limited {q : Query} {ps : List Param} {table : List Tuple} {found : List Row} {n : Nat}
    (hsorted : (table.filter (q.condition.selects ps)).mergeSort (precedes q.order) = found.map ofRow)
    (hfound : found.length ≤ largestBigint) (hn : q.limit = some n)
    (hlimit : ps.getD (n - 1) .null = .clamped largestBigint limit) :
    q.rows ps table = (found.take limit).map ofRow := by
  simp only [Query.rows, hsorted, hn, Option.map_some, Operand.value, hlimit, Param.clamped]
  rw [← List.map_take, take_clamped found limit hfound]

theorem rows_candidates {n m : Nat} {lock : Option Lock} {ps : List Param} {table : List Tuple} (h : Mirrors table s)
    (hsize : s.rows.size ≤ largestBigint) (hnow : ps.getD (n - 1) .null = .time now)
    (hlimit : ps.getD (m - 1) .null = .clamped largestBigint limit) :
    (candidates n m lock).rows ps table = ((s.claimable now).take limit).map ofRow := by
  refine rows_limited (h.sorted_eq (isOrder_precedes _) (fun r => selects_claimable hnow)
    fun a b _ _ => precedes_oldest a b) ?_ rfl hlimit
  rw [Outbox.Store.claimable, List.length_mergeSort]
  exact (List.length_filter_le ..).trans hsize

theorem rows_deadLetters {ps : List Param} {table : List Tuple} (h : Mirrors table s)
    (hsize : s.rows.size ≤ largestBigint) (hlimit : ps.getD 0 .null = .clamped largestBigint limit) :
    (Query.mk Field.all (.isNotNull .deadLetteredAt) [.deadLetteredAt, .id] (some 1) none).rows ps table =
      (s.deadLetters limit).map ofRow := by
  refine rows_limited (h.sorted_eq Outbox.Store.isOrder_deadLetterPrecedes
    (fun r => selects_isNotNull (x := r.deadLetteredAt) rfl) fun a b ha hb => precedes_deadLetters ha hb) ?_ rfl hlimit
  rw [List.length_mergeSort]
  exact (List.length_filter_le ..).trans hsize

theorem serves_selectCandidates (hsize : s.rows.size ≤ largestBigint) (now : Time) (limit : Nat) :
    Serves (.selectCandidates now limit) s
      (·.records = ((s.claimable now).take limit).map fun r => record [.id] (ofRow r)) s :=
  serves_select (q := candidates 1 2 none) rfl fun _ h => rows_candidates h hsize rfl rfl

theorem serves_select_id (id : EventId) :
    Serves (.select id) s (·.records = (s.get? id).toList.map fun r => record Field.all (ofRow r)) s :=
  serves_select (q := ⟨Field.all, .ofId, [], none, none⟩) rfl fun _ h => rows_ofId h rfl

theorem serves_lockForFailure (id : EventId) :
    Serves (.lockForFailure id) s
      (·.records = (s.get? id).toList.map fun r => record [.attempts, .processedAt, .deadLetteredAt] (ofRow r)) s :=
  serves_select (q := ⟨[.attempts, .processedAt, .deadLetteredAt], .ofId, [], none, some .forUpdate⟩) rfl
    fun _ h => rows_ofId h rfl

theorem serves_selectDeadLetters (hsize : s.rows.size ≤ largestBigint) (limit : Nat) :
    Serves (.selectDeadLetters limit) s
      (·.records = (s.deadLetters limit).map fun r => record Field.all (ofRow r)) s :=
  serves_select (q := ⟨Field.all, .isNotNull .deadLetteredAt, [.deadLetteredAt, .id], some 1, none⟩) rfl
    fun _ h => rows_deadLetters h hsize rfl

theorem serves_probe (id : EventId) :
    Serves (.probe id) s (·.records.isEmpty = (s.get? id).isNone) s := by
  refine ⟨_, rfl, fun now table h => ⟨_, table, rfl, ?_, h⟩⟩
  have hfound : table.filter (Condition.ofId.selects (Statement.probe id).params) = (s.get? id).toList.map ofRow :=
    filter_ofId h rfl
  simp only [hfound]
  cases s.get? id <;> rfl

theorem serves_countStates (hends : ∀ r ∈ s.rows.entries, ¬ (r.isProcessed = true ∧ r.isDeadLettered = true))
    (now : Time) :
    Serves (.countStates now) s (fun result => ∃ record, result.records = [record] ∧
      record.pending = .value (s.stats now).pending ∧ record.leased = .value (s.stats now).leased ∧
      record.retrying = .value (s.stats now).retrying ∧ record.processed = .value (s.stats now).processed ∧
      record.deadLettered = .value (s.stats now).deadLettered) s := by
  refine ⟨_, rfl, fun _ table h => ⟨_, table, rfl, ⟨_, rfl, ?_⟩, h⟩⟩
  have hcount (state : Outbox.Store.State) :
      table.countP ((Condition.ofState state).selects (Statement.countStates now).params) =
        s.rows.entries.countP fun r => Outbox.Store.state r now = state :=
    h.countP_eq fun r hr => selects_ofState rfl (hends r hr) state
  refine ⟨?_, ?_, ?_, ?_, ?_⟩
  all_goals exact congrArg (fun n : Nat => Column.value (n : Int)) (hcount _)

theorem AllStorable.storable (h : AllStorable s) (hr : s.get? id = some r) : Storable r :=
  h r (Outbox.Store.mem_of_get? hr)

theorem allStorable_put (h : AllStorable s) (hr : Storable r) : AllStorable (s.put r) := by
  intro q hq
  have hget := Outbox.Store.get?_of_mem hq
  rw [Outbox.Store.get?_put] at hget
  split at hget
  · cases hget
    exact hr
  · exact h.storable hget

theorem storable_of_put (h : AllStorable (s.put r)) : Storable r :=
  h.storable (by rw [Outbox.Store.get?_put, if_pos rfl])

section Update

variable {stmt : Statement} {assignments : List (Field × Operand)} {c : Condition} {returning : List Field}
  (hwork : stmt.work? = some (.update assignments (.where c) returning))
  (hc : ∀ r, c.selects stmt.params (ofRow r) = (decide (r.id = id) && p r))
include hwork hc

theorem serves_update_hit {q : Row} (hr : s.get? id = some r) (hp : p r = true) (hid : q.id = r.id)
    (hassign : assign stmt.params assignments (ofRow r) = ofRow q) (hs : AllStorable (s.put q)) :
    Serves stmt s (· = ⟨if returning.isEmpty then [] else [record returning (ofRow q)], 1⟩) (s.put q) := by
  refine ⟨_, hwork, fun now table h => ?_⟩
  have hfound : table.filter (c.selects stmt.params) = [ofRow r] := by
    rw [h.filter_eq hc, hr, Option.filter_some, if_pos hp]
    rfl
  have hwritten := h.put hr hp hid hassign hc
  refine ⟨_, _, accept_of_mirrors hwritten hs _, ?_, hwritten⟩
  have hcovers : (Scope.where c).covers stmt.params table = c.selects stmt.params := rfl
  rw [hcovers, hfound, List.map_singleton, hassign]
  rfl

theorem serves_update_miss (hmiss : (s.get? id).filter p = none) (hs : AllStorable s) :
    Serves stmt s (· = ⟨[], 0⟩) s := by
  refine ⟨_, hwork, fun now table h => ?_⟩
  have hnone : table.filter (c.selects stmt.params) = [] := by
    rw [h.filter_eq hc, hmiss]
    rfl
  have hsame :
      (table.map fun t => if c.selects stmt.params t then assign stmt.params assignments t else t) = table := by
    have hmiss : ∀ t ∈ table, ¬ c.selects stmt.params t = true := List.filter_eq_nil_iff.1 hnone
    rw [List.map_congr_left (g := fun t => t) fun t ht => if_neg (hmiss t ht), List.map_id']
  have hcovers : (Scope.where c).covers stmt.params table = c.selects stmt.params := rfl
  refine ⟨_, table, ?_, rfl, h⟩
  simp only [Work.run, hcovers, hsame, hnone]
  rw [accept_of_mirrors h hs]
  cases returning <;> rfl

end Update

theorem filter_eq_none {x : Option Row} (h : ∀ r, x = some r → p r = false) : x.filter p = none := by
  cases x with
  | none => rfl
  | some r => rw [Option.filter_some, if_neg (by rw [h r rfl]; decide)]

theorem selects_lease (r : Row) :
    (Condition.and .ofId (.claimable 4)).selects (Statement.lease id worker expiry now).params (ofRow r) =
      (decide (r.id = id) && r.isClaimable now) := by
  rw [selects_and, selects_ofId rfl, selects_claimable rfl]

theorem serves_lease (worker : String) (expiry : Time) (hr : s.get? id = some r) (hclaim : r.isClaimable now = true)
    (hs : AllStorable (s.put (r.leasedTo worker expiry))) :
    Serves (.lease id worker expiry now) s (·.records = [record Field.all (ofRow (r.leasedTo worker expiry))])
      (s.put (r.leasedTo worker expiry)) := by
  refine (serves_update_hit (q := r.leasedTo worker expiry) rfl selects_lease hr hclaim rfl ?_ hs).mono ?_
  · funext f
    cases f <;> rfl
  · rintro _ rfl
    rfl

section MarkProcessed

theorem selects_markProcessed (r : Row) :
    (Condition.and .ofId .unresolved).selects (Statement.markProcessed id now).params (ofRow r) =
      (decide (r.id = id) && !r.isTerminal) := by
  rw [selects_and, selects_ofId rfl, selects_unresolved]

theorem serves_markProcessed_hit (hr : s.get? id = some r) (hlive : r.isTerminal = false)
    (hs : AllStorable (s.put (r.processed now))) :
    Serves (.markProcessed id now) s (·.affected = 1) (s.put (r.processed now)) := by
  refine (serves_update_hit (q := r.processed now) rfl selects_markProcessed hr (by rw [hlive]; rfl) rfl ?_ hs).mono ?_
  · funext f
    cases f <;> rfl
  · rintro _ rfl
    rfl

theorem serves_markProcessed_miss (hmiss : ∀ r, s.get? id = some r → r.isTerminal = true) (hs : AllStorable s) :
    Serves (.markProcessed id now) s (·.affected = 0) s := by
  refine (serves_update_miss rfl selects_markProcessed (filter_eq_none fun r hr => ?_) hs).mono ?_
  · rw [hmiss r hr]
    rfl
  · rintro _ rfl
    rfl

end MarkProcessed

section Requeue

theorem selects_requeue (r : Row) :
    (Condition.and .ofId (.isNotNull .deadLetteredAt)).selects (Statement.requeue id).params (ofRow r) =
      (decide (r.id = id) && r.isDeadLettered) := by
  rw [selects_and, selects_ofId rfl, selects_isNotNull (x := r.deadLetteredAt) rfl]
  rfl

theorem serves_requeue_hit (hr : s.get? id = some r) (hdead : r.isDeadLettered = true)
    (hs : AllStorable (s.put r.requeued)) :
    Serves (.requeue id) s (·.records = [record Field.all (ofRow r.requeued)]) (s.put r.requeued) := by
  refine (serves_update_hit (q := r.requeued) rfl selects_requeue hr hdead rfl ?_ hs).mono ?_
  · funext f
    cases f <;> rfl
  · rintro _ rfl
    rfl

theorem serves_requeue_miss (hmiss : ∀ r, s.get? id = some r → r.isDeadLettered = false) (hs : AllStorable s) :
    Serves (.requeue id) s (·.records = []) s := by
  refine (serves_update_miss rfl selects_requeue (filter_eq_none hmiss) hs).mono ?_
  rintro _ rfl
  rfl

end Requeue

theorem selects_markFailed {attempts : UInt32} {error : String} {next deadLetteredAt : Option Time} (r : Row) :
    Condition.ofId.selects (Statement.markFailed id attempts error next deadLetteredAt).params (ofRow r) =
      (decide (r.id = id) && (fun _ => true) r) := by
  rw [selects_ofId rfl, Bool.and_true]

theorem serves_markFailed {error : String} {policy : RetryPolicy} (hr : s.get? id = some r)
    (hlive : r.isTerminal = false) (hs : AllStorable (s.put (r.failed error now policy))) :
    let failed := r.failed error now policy
    Serves (.markFailed id failed.attempts (clipError error) failed.nextAttemptAt
      (if failed.nextAttemptAt.isNone then some now else none)) s (fun _ => True) (s.put failed) := by
  intro failed
  have hattempts : min failed.attempts.toNat largestInteger = failed.attempts.toNat :=
    Nat.min_eq_left (storable_of_put hs).attempts
  have hdead : r.deadLetteredAt = none := by
    have hend := (Row.isTerminal_eq_false.1 hlive).2
    rwa [Row.isDeadLettered, Option.isSome_eq_false_iff, Option.isNone_iff_eq_none] at hend
  refine (serves_update_hit (q := failed) rfl selects_markFailed hr rfl rfl ?_ hs).mono fun _ _ => trivial
  funext f
  cases f with
  | attempts => exact congrArg Param.number hattempts
  | deadLetteredAt =>
      show Param.ofOption .time (if failed.nextAttemptAt.isNone then some now else none) =
        Param.ofOption .time (if failed.nextAttemptAt.isNone then some now else r.deadLetteredAt)
      rw [hdead]
  | _ => rfl

theorem serves_purge (s : Outbox.Store) (before : Time) :
    Serves (.purge before) s (·.affected = (s.purge before).1) (s.purge before).2 := by
  have hselects (r : Row) : (Condition.and (.isNotNull .processedAt) (.compare .processedAt .lt (.param 1))).selects
      (Statement.purge before).params (ofRow r) = r.isProcessedBefore before := by
    have hbefore : (Statement.purge before).params.getD 0 .null = .time before := rfl
    rw [selects_and, selects_isNotNull (x := r.processedAt) rfl, selects_compare (x := r.processedAt) rfl hbefore]
    simp only [admits_lt, Row.isProcessedBefore]
    cases r.processedAt <;> rfl
  refine ⟨_, rfl, fun _ table h => ⟨_, _, rfl, ?_, ?_⟩⟩
  · rw [Outbox.Store.count_purge]
    exact h.countP_eq fun r _ => hselects r
  · obtain ⟨rows, hperm, rfl⟩ := h.exists_rows
    rw [List.filter_map]
    refine mirrors_map ?_
    rw [Outbox.Store.entries_purge]
    refine .trans (.of_eq (List.filter_congr fun r _ => ?_)) (hperm.filter _)
    rw [Function.comp_apply, hselects]

theorem fresh_insert (hstaged : r.IsStaged) (now : Time) :
    fresh now (Statement.insert r).params [.id, .occurredAt, .createdAt, .type, .payload, .correlationId, .aggregateId,
      .key, .attempts] = ofRow r := by
  rw [← hstaged]
  funext f
  cases f <;> rfl

theorem serves_insert (hstaged : r.IsStaged) (hfresh : s.get? r.id = none) (hs : AllStorable (s.put r)) :
    Serves (.insert r) s (fun _ => True) (s.put r) := by
  refine ⟨_, rfl, fun now table h => ?_⟩
  have hcons := h.cons hfresh
  refine ⟨⟨[], 1⟩, _, ?_, trivial, hcons⟩
  rw [Work.run, fresh_insert hstaged]
  exact accept_of_mirrors hcons hs _

theorem refuses_insert (hstaged : r.IsStaged) {q : Row} (htaken : s.get? r.id = some q) (hs : AllStorable s)
    (hr : Storable r) : Refuses (.insert r) s duplicate := by
  refine ⟨_, rfl, fun now table h => ?_⟩
  have hrows : ∀ t ∈ table ++ [ofRow r], Tuple.flaw? t = none := by
    intro t ht
    rcases List.mem_append.1 ht with ht | ht
    · obtain ⟨q, hq, rfl⟩ := List.mem_map.1 (h.mem_iff.1 ht)
      exact (hs q hq).flaw?_eq_none
    · rw [List.mem_singleton.1 ht]
      exact hr.flaw?_eq_none
  have hids : ¬ ((table ++ [ofRow r]).map (· .id)).Nodup := by
    rw [List.map_append, List.nodup_append]
    rintro ⟨-, -, hapart⟩
    have hmem : ofRow q ∈ table := h.mem_iff.2 (List.mem_map_of_mem (Outbox.Store.mem_of_get? htaken))
    exact hapart _ (List.mem_map_of_mem hmem) _ (List.mem_singleton_self _)
      (ofRow_id_inj.2 (Outbox.Store.id_of_get? htaken))
  rw [Work.run, fresh_insert hstaged, accept, flaw?, List.findSome?_eq_none_iff.2 hrows, Option.none_or, if_neg hids]

def picks (s : Outbox.Store) (limit : Nat) (now : Time) (r : Row) : Bool :=
  ((s.claimable now).take limit).any (·.id = r.id)

theorem picks_iff (hr : s.get? r.id = some r) : picks s limit now r = true ↔ r ∈ (s.claimable now).take limit := by
  simp only [picks, List.any_eq_true, decide_eq_true_eq]
  constructor
  · rintro ⟨q, hq, hid⟩
    have hget := (Outbox.Store.mem_claimable.1 (List.mem_of_mem_take hq)).1
    rw [hid, hr] at hget
    exact Option.some.inj hget ▸ hq
  · exact fun hr => ⟨r, hr, rfl⟩

theorem filter_picks {rows : List Row} (hperm : rows.Perm s.rows.entries) :
    (rows.filter (picks s limit now)).Perm ((s.claimable now).take limit) := by
  have hrows : rows.Nodup := hperm.nodup_iff.2 (.of_map _ s.nodup_ids)
  have hclaimable : (s.claimable now).Nodup := .of_map _ (s.nodup_claimable now)
  refine (List.perm_ext_iff_of_nodup (hrows.filter _) (hclaimable.sublist (List.take_sublist ..))).2 fun r => ?_
  rw [List.mem_filter, hperm.mem_iff, Outbox.Store.mem_iff_get?]
  constructor
  · rintro ⟨hr, hpick⟩
    exact (picks_iff hr).1 hpick
  · intro hr
    have hget := (Outbox.Store.mem_claimable.1 (List.mem_of_mem_take hr)).1
    exact ⟨hget, (picks_iff hget).2 hr⟩

theorem get?_insertAll_batchOf (id : EventId) :
    (⟨s.rows.insertAll (s.batchOf limit worker expiry now)⟩ : Outbox.Store).get? id =
      (s.get? id).map fun r => if picks s limit now r then r.leasedTo worker expiry else r := by
  have hc := s.claimed_batchOf limit worker expiry now
  rw [hc.get?]
  cases hr : s.get? id with
  | none =>
      have hnone : (s.batchOf limit worker expiry now).find? (·.id = id) = none := by
        rw [Outbox.Store.find?_id_eq_none]
        rintro r hmem rfl
        obtain ⟨q, hq, -⟩ := hc.leased r hmem
        rw [hr] at hq
        cases hq
      rw [hnone]
      rfl
  | some r =>
      obtain rfl := Outbox.Store.id_of_get? hr
      rw [Option.map_some]
      by_cases hpick : picks s limit now r = true
      · have hmem : r.leasedTo worker expiry ∈ s.batchOf limit worker expiry now :=
          List.mem_map_of_mem ((picks_iff hr).1 hpick)
        have hfind : (s.batchOf limit worker expiry now).find? (·.id = r.id) = some (r.leasedTo worker expiry) :=
          Outbox.Store.find?_id_eq_some hc.nodup hmem
        rw [if_pos hpick, hfind, Option.some_or]
      · have hnone : (s.batchOf limit worker expiry now).find? (·.id = r.id) = none := by
          rw [Outbox.Store.find?_id_eq_none]
          intro q hmem hid
          obtain ⟨p, hp, rfl⟩ := List.mem_map.1 hmem
          refine hpick (List.any_eq_true.2 ⟨p, hp, ?_⟩)
          exact decide_eq_true hid
        rw [if_neg hpick, hnone, Option.none_or]

theorem covers_leaseBatch {table : List Tuple} (h : Mirrors table s) (hsize : s.rows.size ≤ largestBigint) (r : Row) :
    (Scope.idIn (candidates 3 4 (some .skipLocked))).covers (Statement.leaseBatch worker expiry now limit).params table
      (ofRow r) = picks s limit now r := by
  have hrows : (candidates 3 4 (some .skipLocked)).rows (Statement.leaseBatch worker expiry now limit).params table =
      ((s.claimable now).take limit).map ofRow := rows_candidates h hsize rfl rfl
  rw [Scope.covers, hrows, List.any_map]
  simp only [Function.comp_def, compare?_id]
  rfl

theorem serves_leaseBatch (hsize : s.rows.size ≤ largestBigint)
    (hs : AllStorable ⟨s.rows.insertAll (s.batchOf limit worker expiry now)⟩) :
    Serves (.leaseBatch worker expiry now limit) s
      (fun result => ∃ batch : List Row, batch.Perm (s.batchOf limit worker expiry now) ∧
        result.records = batch.map fun r => record Field.all (ofRow r))
      ⟨s.rows.insertAll (s.batchOf limit worker expiry now)⟩ := by
  refine ⟨_, rfl, fun _ table h => ?_⟩
  obtain ⟨rows, hperm, rfl⟩ := h.exists_rows
  have hassign (r : Row) : assign (Statement.leaseBatch worker expiry now limit).params
      [(.lockedBy, .param 1), (.lockedUntil, .param 2)] (ofRow r) = ofRow (r.leasedTo worker expiry) := by
    funext f
    cases f <;> rfl
  have hwritten := h.map (f := fun t =>
      if (Scope.idIn (candidates 3 4 (some .skipLocked))).covers (Statement.leaseBatch worker expiry now limit).params
          (rows.map ofRow) t
      then assign (Statement.leaseBatch worker expiry now limit).params
        [(.lockedBy, .param 1), (.lockedUntil, .param 2)] t
      else t)
    (fun r _ => by rw [covers_leaseBatch h hsize, hassign, ← apply_ite ofRow])
    (fun r => by split <;> rfl) get?_insertAll_batchOf
  refine ⟨_, _, accept_of_mirrors hwritten hs _, ⟨_, (filter_picks hperm).map _, ?_⟩, hwritten⟩
  have hcovers : (Scope.idIn (candidates 3 4 (some .skipLocked))).covers
      (Statement.leaseBatch worker expiry now limit).params (rows.map ofRow) ∘ ofRow = picks s limit now :=
    funext (covers_leaseBatch h hsize)
  rw [List.filter_map, hcovers, List.map_map, List.map_map]
  simp only [List.map_map]
  exact List.map_congr_left fun r _ => congrArg (record Field.all) (hassign r)

end Outbox.Postgres.Sql
