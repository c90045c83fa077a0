import Outbox.Proofs.Store.Claiming
import Outbox.Proofs.Worker.Accounting

namespace Outbox

namespace Row

/-- The row with one attempt more and that failure on record, due again or given up as the policy says. -/
def tried (r : Row) (error : String) (t : Time) (policy : RetryPolicy) : Row :=
  { r with
    attempts := r.attempts + 1, error := some (String.ofList (error.toList.take 4000))
    lockedBy := none, lockedUntil := none
    nextAttemptAt := policy.nextAttempt (r.attempts + 1) t
    deadLetteredAt := if policy.shouldRetry (r.attempts + 1) then none else some t }

variable {r q : Row} {s : Settings} {t : Time}

theorem failed_eq_tried (hlive : r.isTerminal = false) (hspare : r.attempts ≠ 0xFFFFFFFF) (error : String) (t : Time)
    (policy : RetryPolicy) : r.failed error t policy = r.tried error t policy := by
  obtain ⟨-, hdead⟩ := isTerminal_eq_false.1 hlive
  have hnone : r.deadLetteredAt = none := Option.not_isSome_iff_eq_none.1 (by simpa [isDeadLettered] using hdead)
  have hcount : countAttempt r.attempts = r.attempts + 1 := if_neg hspare
  simp only [failed, tried, released, hcount, hnone, RetryPolicy.nextAttempt]
  cases policy.shouldRetry (r.attempts + 1) <;> rfl

/-- How a row ends that is handled at a moment: what is done about it, and what is left of it. -/
inductive Ends (s : Settings) (r : Row) (t : Time) : List Deed → Row → Prop
  | accepted (m : Message) (hm : r.message? s.topic = .ok m) :
      Ends s r t [.publish m (.ok (.ok ())), .markProcessed r.id t (.ok ())]
        { r with processedAt := some t, error := none, lockedBy := none, lockedUntil := none }
  | rejected (m : Message) (e : PublishError) (outcome : FailureOutcome) (hm : r.message? s.topic = .ok m) :
      Ends s r t [.publish m (.ok (.error e)), .markFailed r.id e.message t s.retry (.ok outcome)]
        (r.tried e.message t s.retry)
  | unwritten (e : EncodingError) (outcome : FailureOutcome) (hm : r.message? s.topic = .error e) :
      Ends s r t [.markFailed r.id e.message t s.retry (.ok outcome)] (r.tried e.message t s.retry)

theorem Ends.of_leasedTo {worker : String} {expiry : Time} {deeds : List Deed}
    (h : (r.leasedTo worker expiry).Ends s t deeds q) : r.Ends s t deeds q := by
  cases h with
  | accepted m hm => exact .accepted m hm
  | rejected m e outcome hm => exact .rejected m e outcome hm
  | unwritten e outcome hm => exact .unwritten e outcome hm

def fate (r : Row) : Resolution :=
  if r.isProcessed then .published else if r.isDeadLettered then .deadLettered else .retried

theorem fate_ne (r : Row) : r.fate ≠ .unwritten ∧ r.fate ≠ .unchanged := by
  rw [fate]
  cases r.isProcessed <;> cases r.isDeadLettered <;> decide

theorem fate_tried (hlive : r.isTerminal = false) (error : String) (t : Time) (policy : RetryPolicy) :
    (r.tried error t policy).fate =
      if policy.shouldRetry (r.attempts + 1) then .retried else .deadLettered := by
  have hproc : (r.tried error t policy).isProcessed = false := (isTerminal_eq_false.1 hlive).1
  rw [fate, hproc, isDeadLettered, tried]
  cases policy.shouldRetry (r.attempts + 1) <;> rfl

theorem Ends.fate_iff {deeds : List Deed} (h : r.Ends s t deeds q) (hlive : r.isTerminal = false) :
    (q.fate = .published ↔ q.isProcessed = true) ∧ (q.fate = .retried ↔ (!q.isTerminal) = true) ∧
      (q.fate = .deadLettered ↔ q.isDeadLettered = true) := by
  obtain ⟨hproc, hdead⟩ := isTerminal_eq_false.1 hlive
  have hone : ¬ (q.isProcessed = true ∧ q.isDeadLettered = true) := by
    rintro ⟨hp, hd⟩
    cases h with
    | accepted => cases hdead.symm.trans hd
    | rejected | unwritten => cases hproc.symm.trans hp
  rw [fate, isTerminal]
  cases hp : q.isProcessed <;> cases hd : q.isDeadLettered <;> simp_all

theorem Ends.unleased {deeds : List Deed} (h : r.Ends s t deeds q) : q.lockedBy = none ∧ q.lockedUntil = none := by
  cases h <;> exact ⟨rfl, rfl⟩

end Row

namespace Company

variable {c : Company} {s : Settings} {a b z store store' : Store} {r : Row} {rows batch : List Row}
  {diary part : List Encounter} {k : Nat} {t : Time}

theorem Handles.alone (h : c.Handles s r t a part b) (hquiet : ∀ n, c.meanwhile n = []) (hr : a.get? r.id = some r)
    (hlive : r.isTerminal = false) (hspare : r.attempts ≠ 0xFFFFFFFF) :
    ∃ q, b = a.put q ∧ q.id = r.id ∧ r.Ends s t (part.map (·.deed)) q ∧
      part.filterMap Encounter.resolution? = [q.fate] := by
  have hfailed (error : String) := Row.failed_eq_tried hlive hspare error t s.retry
  have hmark (error : String) : a.markFailed r.id error t s.retry = _ := Store.markFailed_live hr hlive
  have hcount : Row.countAttempt r.attempts = r.attempts + 1 := if_neg hspare
  have hresolution (error : String) := Encounter.resolution?_fails hr hlive error t s.retry
  cases h with
  | accepted m asked found _ hm hasked hfound hafter =>
      obtain rfl := hasked.eq_of_quiet hquiet
      obtain rfl := hfound.eq_of_quiet hquiet
      rw [Store.answer, Store.markProcessed_live hr hlive, Store.reply] at hafter
      refine ⟨r.processed t, hafter.eq_of_quiet hquiet, rfl, ?_, ?_⟩
      · rw [Encounter.marks, Store.markProcessed_live hr hlive]
        exact .accepted m hm
      · rw [List.filterMap_cons, List.filterMap_cons, Encounter.resolution?_marks, hr]
        rfl
  | rejected m e asked found _ hm hasked hfound hafter =>
      obtain rfl := hasked.eq_of_quiet hquiet
      obtain rfl := hfound.eq_of_quiet hquiet
      rw [Store.answer, hmark, hfailed, Store.reply] at hafter
      refine ⟨r.tried e.message t s.retry, hafter.eq_of_quiet hquiet, rfl, ?_, ?_⟩
      · rw [Encounter.fails, hmark]
        exact .rejected m e _ hm
      · rw [List.filterMap_cons, List.filterMap_cons, hresolution, hcount, Row.fate_tried hlive]
        rfl
  | unwritten e found _ hm hfound hafter =>
      obtain rfl := hfound.eq_of_quiet hquiet
      rw [Store.answer, hmark, hfailed, Store.reply] at hafter
      refine ⟨r.tried e.message t s.retry, hafter.eq_of_quiet hquiet, rfl, ?_, ?_⟩
      · rw [Encounter.fails, hmark]
        exact .unwritten e _ hm
      · rw [List.filterMap_cons, hresolution, hcount, Row.fate_tried hlive]
        rfl

theorem Works.alone (h : c.Works s k a rows diary z) (hquiet : ∀ n, c.meanwhile n = []) (hrows : a.Holds rows)
    (hspare : ∀ r ∈ rows, r.attempts ≠ 0xFFFFFFFF) :
    (∀ id, (∀ r ∈ rows, r.id ≠ id) → z.get? id = a.get? id) ∧
      (∀ r ∈ rows, ∃ t deeds q, z.get? r.id = some q ∧ r.Ends s t deeds q) ∧
      (∃ parts, diary.map (·.deed) = parts.flatten ∧ List.Forall₂ (fun r part => ∃ q, z.get? r.1.id = some q ∧
        r.1.Ends s (c.clock r.2) part q) (rows.zipIdx k) parts) ∧
      diary.filterMap Encounter.resolution? = rows.map fun r => (z.get? r.id).elim .unwritten Row.fate := by
  induction h with
  | done k a z h =>
      obtain rfl := h.eq_of_quiet hquiet
      exact ⟨fun _ _ => rfl, fun _ h => absurd h List.not_mem_nil, ⟨[], rfl, .nil⟩, rfl⟩
  | @row k a b z r rows part diary hr _ ih =>
      obtain ⟨hspare, hspares⟩ := List.forall_mem_cons.1 hspare
      obtain ⟨q, rfl, hid, hends, hfate⟩ := hr.alone hquiet (hrows.stored r (List.mem_cons_self ..))
        (hrows.live r (List.mem_cons_self ..)) hspare
      obtain ⟨hothers, hall, ⟨parts, hparts, hzip⟩, hfates⟩ := ih (hrows.put hid) hspares
      have hnew : ∀ p ∈ rows, p.id ≠ r.id := by
        intro p hp he
        exact (List.nodup_cons.1 hrows.nodup).1 (List.mem_map.2 ⟨p, hp, he⟩)
      have hget : z.get? r.id = some q := by rw [hothers r.id hnew, Store.get?_put, if_pos hid]
      refine ⟨fun id hne => ?_, ?_, ⟨part.map (·.deed) :: parts, ?_, .cons ⟨q, hget, hends⟩ hzip⟩, ?_⟩
      · obtain ⟨hr', hrest⟩ := List.forall_mem_cons.1 hne
        rw [hothers id hrest, Store.get?_put, if_neg (hid ▸ hr')]
      · exact List.forall_mem_cons.2 ⟨⟨_, _, q, hget, hends⟩, hall⟩
      · rw [List.map_append, hparts, List.flatten_cons]
      · rw [List.filterMap_append, hfate, hfates, List.map_cons, hget]
        rfl

theorem Works.leased {worker : String} {expiry : Time} (h : c.Works s 1 store' batch diary z)
    (hquiet : ∀ n, c.meanwhile n = []) (hlease : store.Leases rows worker expiry batch store')
    (hholds : store'.Holds batch) (hspare : ∀ r ∈ batch, r.attempts ≠ 0xFFFFFFFF) :
    (∀ id, (∀ r ∈ rows, r.id ≠ id) → z.get? id = store.get? id) ∧
      (∀ r ∈ rows, r.isTerminal = false ∧ ∃ t deeds q, z.get? r.id = some q ∧ r.Ends s t deeds q) ∧
      (∃ parts, diary.map (·.deed) = parts.flatten ∧ List.Forall₂ (fun r part => ∃ q, z.get? r.1.id = some q ∧
        r.1.Ends s (c.clock r.2) part q) (rows.zipIdx 1) parts) ∧
      diary.filterMap Encounter.resolution? = rows.map fun r => (z.get? r.id).elim .unwritten Row.fate := by
  obtain ⟨hothers, hall, ⟨parts, hparts, hzip⟩, hfates⟩ := h.alone hquiet hholds hspare
  obtain rfl : batch = rows.map (·.leasedTo worker expiry) := hlease.rows_eq
  rw [List.zipIdx_map, List.forall₂_map_left_iff] at hzip
  refine ⟨fun id hne => ?_, fun r hr => ?_, ⟨parts, hparts, hzip.imp ?_⟩, ?_⟩
  · have hnew : ∀ r ∈ rows.map (·.leasedTo worker expiry), r.id ≠ id := by
      intro r hr
      obtain ⟨q, hq, rfl⟩ := List.mem_map.1 hr
      exact hne q hq
    rw [hothers id hnew, hlease.kept id hnew]
  · have hmem := List.mem_map_of_mem (f := (·.leasedTo worker expiry)) hr
    have hlive : (r.leasedTo worker expiry).isTerminal = false := hholds.live _ hmem
    obtain ⟨t, deeds, q, hq, hends⟩ := hall _ hmem
    exact ⟨hlive, t, deeds, q, hq, hends.of_leasedTo⟩
  · rintro ⟨r, k⟩ part ⟨q, hq, hends⟩
    exact ⟨q, hq, hends.of_leasedTo⟩
  · rw [hfates, List.map_map]
    rfl

theorem count_fates (hends : ∀ r ∈ rows, r.isTerminal = false ∧ ∃ t deeds q, z.get? r.id = some q ∧ r.Ends s t deeds q)
    (x : Resolution) (p : Row → Bool)
    (hx : ∀ {r q : Row} {t deeds}, r.Ends s t deeds q → r.isTerminal = false → (q.fate = x ↔ p q = true)) :
    (rows.map fun r => (z.get? r.id).elim .unwritten Row.fate).count x =
      rows.countP fun r => (z.get? r.id).any p := by
  rw [List.count, List.countP_map]
  refine List.countP_congr fun r hr => ?_
  obtain ⟨hlive, t, deeds, q, hq, hends⟩ := hends r hr
  simp only [Function.comp, hq, Option.elim, Option.any_some, beq_iff_eq, hx hends hlive]

/-- What an iteration has come to: of the rows that it claimed each has been handled, none of them is still leased, and
all others are as they were. The report counts the rows by their ends. -/
structure Completes (c : Company) (s : Settings) (before : Store) (rows : List Row) (diary : List Encounter)
    (report : Report) (after : Store) : Prop where
  calls : diary.filterMap Encounter.message? = rows.filterMap fun r => (r.message? s.topic).toOption
  ends : ∃ parts, diary.map (·.deed) = parts.flatten ∧ List.Forall₂ (fun r part => ∃ q, after.get? r.1.id = some q ∧
    r.1.Ends s (c.clock r.2) part q) (rows.zipIdx 1) parts
  unleased : ∀ r ∈ rows, ∃ q, after.get? r.id = some q ∧ q.lockedBy = none ∧ q.lockedUntil = none
  others : ∀ id, (∀ r ∈ rows, r.id ≠ id) → after.get? id = before.get? id
  claimed : report.claimed = rows.length
  sum : report.claimed = report.published + report.retried + report.deadLettered
  published : report.published = rows.countP fun r => (after.get? r.id).any (·.isProcessed)
  retried : report.retried = rows.countP fun r => (after.get? r.id).any (!·.isTerminal)
  deadLettered : report.deadLettered = rows.countP fun r => (after.get? r.id).any (·.isDeadLettered)
  storeErrors : report.storeErrors = 0

theorem Works.completes {worker : String} {expiry : Time} (h : c.Works s 1 store' batch diary z)
    (hquiet : ∀ n, c.meanwhile n = []) (hlease : store.Leases rows worker expiry batch store')
    (hholds : store'.Holds batch) (hspare : ∀ r ∈ batch, r.attempts ≠ 0xFFFFFFFF) :
    c.Completes s store rows diary
      ((diary.filterMap Encounter.resolution?).foldl Report.count (.ofClaimed batch.length)) z := by
  obtain ⟨hothers, hends, hparts, hfates⟩ := h.leased hquiet hlease hholds hspare
  obtain ⟨-, hcalls, -⟩ := h.told
  have hlength : batch.length = rows.length := by rw [hlease.rows_eq, List.length_map]
  have hpublished := count_fates hends .published (·.isProcessed) fun h hlive => (h.fate_iff hlive).1
  have hretried := count_fates hends .retried (!·.isTerminal) fun h hlive => (h.fate_iff hlive).2.1
  have hdead := count_fates hends .deadLettered (·.isDeadLettered) fun h hlive => (h.fate_iff hlive).2.2
  have hlost := count_fates hends .unwritten (fun _ => false) fun {_ q _ _} _ _ =>
    iff_of_false q.fate_ne.1 Bool.false_ne_true
  have hlate := count_fates hends .unchanged (fun _ => false) fun {_ q _ _} _ _ =>
    iff_of_false q.fate_ne.2 Bool.false_ne_true
  have hnone : (rows.countP fun r => (z.get? r.id).any fun _ => false) = 0 := by simp
  have hsum := Report.length_resolutions (rows.map fun r => (z.get? r.id).elim .unwritten Row.fate)
  rw [List.length_map, hpublished, hretried, hdead, hlost, hlate, hnone] at hsum
  rw [Report.foldl_count, hfates, hpublished, hretried, hdead, hlost, hnone, hlength]
  refine ⟨?_, hparts, ?_, hothers, rfl, ?_, ?_, ?_, ?_, rfl⟩
  · rw [hcalls, hlease.rows_eq, List.filterMap_map]
    rfl
  · intro r hr
    obtain ⟨-, t, deeds, q, hq, hends⟩ := hends r hr
    exact ⟨q, hq, hends.unleased⟩
  · simpa [Report.ofClaimed] using hsum
  all_goals exact Nat.zero_add _

theorem spare_batchOf (hsound : store.IsSound) (take : Nat) (worker : String) (expiry now : Time) :
    ∀ r ∈ store.batchOf take worker expiry now, r.attempts ≠ 0xFFFFFFFF := by
  intro r hr he
  obtain ⟨q, hq, hclaim, rfl⟩ := (store.claimed_batchOf take worker expiry now).leased r hr
  have hlt := (hsound _ q hq).spare (Row.not_terminal_of_claimable hclaim)
  have hattempts : q.attempts = 0xFFFFFFFF := he
  rw [hattempts] at hlt
  exact absurd hlt (by decide)

/-- An iteration that nobody disturbs, over a store whose rows were all added fresh. If its claim is refused, nothing
else happens. Otherwise it handles the oldest rows that can be had, as many as a batch is for, each once and in their
order, and what it does to each is what that row's payload and the publisher's word on it call for. -/
theorem iteration_undisturbed (c : Company) (s : Settings) (listening : Bool) (past : List Store.Operation)
    (hquiet : ∀ n, c.meanwhile n = []) (hpast : Store.AddsStaged past) :
    let store := Store.empty.after past
    let answer := store.claim s.batchSize s.workerId s.lease (c.clock 0)
    (∀ e, answer = .error e → ∃ v, c.iteration s listening (.start store) = (.error (.refused e), v) ∧
      v.solo.store = store ∧ v.diary.filterMap Encounter.message? = []) ∧
    ∀ batch store', answer = .ok (batch, store') → ∃ rows report diary v,
      store.Lists (·.isClaimable (c.clock 0)) (some ·.occurredAt) rows ∧
      batch.map (·.id) = (rows.take s.batchSize).map (·.id) ∧
      c.iteration s listening (.start store) = (.ok report, v) ∧
      v.diary = ⟨store, .claim s.batchSize s.workerId s.lease (c.clock 0) (.ok batch)⟩ :: diary ∧
      c.Completes s store (rows.take s.batchSize) diary report v.solo.store ∧
      (∀ (r : Row) m, r.message? s.topic = .ok m ↔ ∃ payload, Json.Holds r.payload payload ∧
        m = ⟨s.topic, r.partitionKey, Envelope.text
          ⟨r.eventType, r.id, r.occurredAt, r.correlationId, r.aggregateId, r.key, payload⟩⟩) ∧
      ∀ r ∈ rows, (r.attempts + 1).toNat = r.attempts.toNat + 1 := by
  intro store answer
  have hsound : store.IsSound := Store.isSound_after Store.isSound_empty hpast
  have hfound : store.after (c.meanwhile 0) = store := by
    rw [hquiet]
    rfl
  refine ⟨fun e he => ?_, fun batch store' hclaim => ?_⟩
  · have he' : (store.after (c.meanwhile 0)).claim s.batchSize s.workerId s.lease (c.clock 0) = .error e :=
      hfound.symm ▸ he
    obtain ⟨v, hrun, hdrift, hdiary⟩ := iteration_refused c s listening (w := .start store) he'
    exact ⟨v, hrun, hdrift.eq_of_quiet hquiet, by rw [hdiary]; rfl⟩
  · change store.claim s.batchSize s.workerId s.lease (c.clock 0) = .ok (batch, store') at hclaim
    cases he : leaseExpiry (c.clock 0) s.lease with
    | error e =>
        rw [Store.claim, he] at hclaim
        cases hclaim
    | ok expiry =>
        have hfound' : (store.after (c.meanwhile 0)).claim s.batchSize s.workerId s.lease (c.clock 0) =
            .ok (batch, store') := hfound.symm ▸ hclaim
        cases (Store.claim_eq store s.batchSize s.workerId he).symm.trans hclaim
        have hspare := spare_batchOf hsound s.batchSize s.workerId expiry (c.clock 0)
        obtain ⟨diary, v, hrun, hworks, hdiary⟩ := iteration_granted c s listening
          (w := .start store) hfound' hspare
        have hcompletes := hworks.completes hquiet (store.leases_batchOf s.batchSize s.workerId expiry (c.clock 0))
          (store.claimed_batchOf s.batchSize s.workerId expiry (c.clock 0)).holds hspare
        refine ⟨store.claimable (c.clock 0), _, diary, v, store.lists_claimable (c.clock 0), ?_, hrun, ?_, hcompletes,
          fun r m => Row.message?_eq_ok_iff, fun r hr => ?_⟩
        · rw [Store.batchOf, List.map_map]
          rfl
        · change v.diary = ⟨store.after (c.meanwhile 0), _⟩ :: diary at hdiary
          rw [hfound] at hdiary
          exact hdiary
        · obtain ⟨hr, hclaimable⟩ := Store.mem_claimable.1 hr
          have hlt := (hsound _ r hr).spare (Row.not_terminal_of_claimable hclaimable)
          rw [UInt32.toNat_add, UInt32.toNat_one, Nat.mod_eq_of_lt (by omega)]

/-- Of four rows three are claimed. One is accepted, one is rejected for the second and last time, and the payload of
one is no JSON. -/
theorem iteration_undisturbed_mixed :
    let retry := { RetryPolicy.standard with maxAttempts := 2 }
    let c : Company := ⟨⟨fun _ => Time.epoch.later 60, fun call _ =>
      if call = 0 then .ok () else .error (.unavailable "down")⟩, fun _ => []⟩
    let s := { Settings.standard "worker" with batchSize := 3, retry }
    let staged := [Row.sample 7, Row.sample 8, { Row.sample 9 with payload := "x" }, Row.sample 10]
    let past := [Store.Operation.add staged, .markFailed ⟨.ofNat 8⟩ "timeout" .epoch retry]
    let store := Store.empty.after past
    (∀ n, c.meanwhile n = []) ∧ Store.AddsStaged past ∧ ∃ rows diary v,
      store.Lists (·.isClaimable (Time.epoch.later 60)) (some ·.occurredAt) rows ∧
      (rows.take s.batchSize).map (·.id) = [⟨.ofNat 7⟩, ⟨.ofNat 8⟩, ⟨.ofNat 9⟩] ∧
      c.iteration s true (.start store) = (.ok ⟨3, 1, 1, 1, 0⟩, v) ∧ v.solo.calls = 2 ∧
      c.Completes s store (rows.take s.batchSize) diary ⟨3, 1, 1, 1, 0⟩ v.solo.store ∧
      v.solo.store.get? ⟨.ofNat 10⟩ = some (Row.sample 10) := by
  intro retry c s staged past store
  have hpast : Store.AddsStaged past := by
    intro rows h
    obtain rfl : rows = staged := by simpa [past] using h
    decide
  have hexpiry : leaseExpiry (c.clock 0) s.lease = .ok (Time.epoch.later 90) := by decide +kernel
  have hready : store.claimable (c.clock 0) =
      [Row.sample 7, (Row.sample 8).failed "timeout" .epoch retry, { Row.sample 9 with payload := "x" },
        Row.sample 10] :=
    Store.claimable_of_filter (by decide +kernel) (by decide +kernel)
  have hclaim := Store.claim_eq store s.batchSize s.workerId hexpiry
  rw [Store.batchOf, hready] at hclaim
  have hnow : (c.backend true).now (.start store) = _ := now_eq (.start store)
  have hrun := Worker.runOnce_claimed hnow
    (claim_granted c true (w := c.next (.start store) { (Scene.start store).solo with readings := 1 } []) hclaim)
  have hreport : (c.iteration s true (.start store)).1 = .ok ⟨3, 1, 1, 1, 0⟩ := by
    rw [iteration, hrun]
    decide +kernel
  have hcalls : (c.iteration s true (.start store)).2.solo.calls = 2 := by
    rw [iteration, hrun]
    decide +kernel
  obtain ⟨rows, report, diary, v, hrows, hbatch, hrun, -, hcompletes, -⟩ :=
    (iteration_undisturbed c s true past (fun _ => rfl) hpast).2 _ _ hclaim
  rw [hrun] at hreport hcalls
  cases hreport
  refine ⟨fun _ => rfl, hpast, rows, diary, v, hrows, hbatch.symm, hrun, hcalls, hcompletes, ?_⟩
  have hother : ∀ r ∈ rows.take s.batchSize, r.id ≠ ⟨.ofNat 10⟩ := by
    intro r hr hid
    have hmem := List.mem_map_of_mem (f := (·.id)) hr
    rw [← hbatch, hid] at hmem
    exact absurd hmem (by decide)
  rw [hcompletes.others _ hother]
  decide +kernel

end Company

end Outbox
