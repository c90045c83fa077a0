import Outbox.Proofs.Worker.Company

namespace Outbox

namespace Report

theorem foldl_count (xs : List Resolution) (report : Report) : xs.foldl count report =
    ⟨report.claimed, report.published + xs.count .published, report.retried + xs.count .retried,
      report.deadLettered + xs.count .deadLettered, report.storeErrors + xs.count .unwritten⟩ := by
  induction xs generalizing report with
  | nil => rfl
  | cons x xs ih =>
      rw [List.foldl_cons, ih]
      cases x <;> simp [count, Nat.add_comm, Nat.add_left_comm]

theorem length_resolutions (xs : List Resolution) : xs.length =
    xs.count .published + xs.count .retried + xs.count .deadLettered + xs.count .unwritten + xs.count .unchanged := by
  induction xs with
  | nil => rfl
  | cons x xs ih =>
      rw [List.length_cons, ih]
      cases x <;> simp <;> omega

end Report

namespace Encounter

def isLost (e : Encounter) : Bool :=
  match e.deed with
  | .markProcessed id .. | .markFailed id .. => (e.store.get? id).isNone
  | _ => false

def isMarked (e : Encounter) : Bool :=
  match e.deed with
  | .markProcessed id .. => (e.store.get? id).isSome
  | _ => false

def isLate (e : Encounter) : Bool :=
  match e.deed with
  | .markFailed id .. => (e.store.get? id).any (·.isTerminal)
  | _ => false

def schedules (e : Encounter) : Bool :=
  match e.deed with
  | .markFailed id error t policy _ =>
    (e.store.get? id).any fun r => !r.isTerminal && (r.failed error t policy).nextAttemptAt.isSome
  | _ => false

def givesUp (e : Encounter) : Bool :=
  match e.deed with
  | .markFailed id error t policy _ =>
    (e.store.get? id).any fun r => !r.isTerminal && (r.failed error t policy).isDeadLettered
  | _ => false

/-- What the store said is what it says to this. -/
inductive IsAnswered : Encounter → Prop
  | publish (found : Store) (m : Message) (answer : Except Abort (Except PublishError Unit)) :
      IsAnswered ⟨found, .publish m answer⟩
  | marks (found : Store) (id : EventId) (t : Time) : IsAnswered (.marks found id t)
  | fails (found : Store) (id : EventId) (error : String) (t : Time) (policy : RetryPolicy) :
      IsAnswered (.fails found id error t policy)

theorem resolution?_marks (found : Store) (id : EventId) (t : Time) : (marks found id t).resolution? =
    some (if (found.get? id).isSome then .published else .unwritten) := by
  cases hr : found.get? id with
  | none =>
      rw [marks, Store.markProcessed_missing hr]
      rfl
  | some r =>
      cases hend : r.isTerminal with
      | false =>
          rw [marks, Store.markProcessed_live hr hend]
          rfl
      | true =>
          rw [marks, Store.markProcessed_ended hr hend]
          rfl

theorem resolution?_fails {found : Store} {r : Row} {id : EventId} (hr : found.get? id = some r)
    (hlive : r.isTerminal = false) (error : String) (t : Time) (policy : RetryPolicy) :
    (fails found id error t policy).resolution? =
      some (if policy.shouldRetry (Row.countAttempt r.attempts) then .retried else .deadLettered) := by
  rw [fails, Store.markFailed_live hr hlive]
  change some (Resolution.ofFailure (.ok (Row.failureOutcome _ (policy.nextAttempt _ t)))) = _
  rw [RetryPolicy.nextAttempt]
  split <;> rfl

theorem resolution_iff {e : Encounter} (h : e.IsAnswered) :
    (e.resolution? = some .published ↔ e.isMarked = true) ∧ (e.resolution? = some .retried ↔ e.schedules = true) ∧
      (e.resolution? = some .deadLettered ↔ e.givesUp = true) ∧ (e.resolution? = some .unchanged ↔ e.isLate = true) ∧
      (e.resolution? = some .unwritten ↔ e.isLost = true) := by
  cases h with
  | publish => simp [resolution?, isMarked, schedules, givesUp, isLate, isLost]
  | marks found id t =>
      rw [resolution?_marks]
      cases hr : found.get? id <;> simp [marks, isMarked, schedules, givesUp, isLate, isLost, hr]
  | fails found id error t policy =>
      cases hr : found.get? id with
      | none =>
          rw [fails, Store.markFailed_missing hr]
          simp [resolution?, Except.map, Resolution.ofFailure, isMarked, schedules, givesUp, isLate, isLost, hr]
      | some r =>
          cases hend : r.isTerminal with
          | true =>
              rw [fails, Store.markFailed_ended hr hend]
              simp [resolution?, Except.map, Resolution.ofFailure, isMarked, schedules, givesUp, isLate, isLost, hr,
                hend]
          | false =>
              have hnext := policy.nextAttempt_isSome (Row.countAttempt r.attempts) t
              have hdead := Row.isDeadLettered_failed hend error t policy
              rw [resolution?_fails hr hend]
              simp only [fails, isMarked, schedules, givesUp, isLate, isLost, hr, hend, Option.any_some, hdead]
              change _ ∧ (_ ↔ (!false && (policy.nextAttempt (Row.countAttempt r.attempts) t).isSome) = true) ∧ _
              rw [hnext]
              cases policy.shouldRetry (Row.countAttempt r.attempts) <;> simp

end Encounter

namespace Company

variable {c : Company} {s : Settings} {a z : Store} {r : Row} {rows : List Row}
  {diary part : List Encounter} {k : Nat} {t : Time}

theorem Handles.told (h : c.Handles s r t a part z) : (∀ e ∈ part, e.IsAnswered) ∧
    part.filterMap Encounter.message? = (r.message? s.topic).toOption.toList ∧
    (part.filterMap Encounter.resolution?).length = 1 := by
  cases h with
  | accepted m asked found _ hm =>
      rw [hm]
      refine ⟨?_, rfl, rfl⟩
      rintro e (_ | ⟨_, _ | ⟨_, ⟨⟩⟩⟩)
      · exact .publish ..
      · exact .marks ..
  | rejected m e asked found _ hm =>
      rw [hm]
      refine ⟨?_, rfl, rfl⟩
      rintro e (_ | ⟨_, _ | ⟨_, ⟨⟩⟩⟩)
      · exact .publish ..
      · exact .fails ..
  | unwritten e found _ hm =>
      rw [hm]
      refine ⟨?_, rfl, rfl⟩
      rintro e (_ | ⟨_, ⟨⟩⟩)
      exact .fails ..

theorem Works.told (h : c.Works s k a rows diary z) : (∀ e ∈ diary, e.IsAnswered) ∧
    diary.filterMap Encounter.message? = rows.filterMap (fun r => (r.message? s.topic).toOption) ∧
    (diary.filterMap Encounter.resolution?).length = rows.length := by
  induction h with
  | done => exact ⟨fun _ h => absurd h List.not_mem_nil, rfl, rfl⟩
  | @row k a b z r rows part diary hr _ ih =>
      obtain ⟨hanswered, hmessages, hlength⟩ := hr.told
      obtain ⟨hanswered', hmessages', hlength'⟩ := ih
      refine ⟨fun e he => ?_, ?_, ?_⟩
      · exact (List.mem_append.1 he).elim (hanswered e) (hanswered' e)
      · rw [List.filterMap_append, hmessages, hmessages']
        cases hm : (r.message? s.topic).toOption <;> simp [hm]
      · rw [List.filterMap_append, List.length_append, hlength, hlength', List.length_cons, Nat.add_comm]

theorem count_resolutions {x : Resolution} {p : Encounter → Bool}
    (h : ∀ e ∈ diary, e.resolution? = some x ↔ p e = true) :
    (diary.filterMap Encounter.resolution?).count x = diary.countP p := by
  rw [List.count_filterMap]
  refine List.countP_congr fun e he => ?_
  rw [beq_iff_eq, h e he]

/-- Whatever others do to the store in the course of an iteration, it asks the publisher once for each row of its batch
that has a message, as the row was when it was claimed, and resolves each row once, as its delivery went. The report
counts every row of the batch, save those that others had brought to an end before their failure was told. -/
theorem interference_accounted (c : Company) (s : Settings) (listening : Bool) (store : Store) :
    let found := store.after (c.meanwhile 0)
    let answer := found.claim s.batchSize s.workerId s.lease (c.clock 0)
    (∀ e, answer = .error e → ∃ v, c.iteration s listening (.start store) = (.error (.refused e), v) ∧
      v.diary.filterMap Encounter.message? = []) ∧
    ∀ batch store', answer = .ok (batch, store') → (∀ r ∈ batch, r.attempts ≠ 0xFFFFFFFF) →
      ∃ report diary v, c.iteration s listening (.start store) = (.ok report, v) ∧
        v.diary = ⟨found, .claim s.batchSize s.workerId s.lease (c.clock 0) (.ok batch)⟩ :: diary ∧
        c.Works s 1 store' batch diary v.solo.store ∧
        diary.filterMap Encounter.message? = batch.filterMap (fun r => (r.message? s.topic).toOption) ∧
        (∀ (r : Row) m, r.message? s.topic = .ok m ↔ ∃ payload, Json.Holds r.payload payload ∧
          m = ⟨s.topic, r.partitionKey, Envelope.text
            ⟨r.eventType, r.id, r.occurredAt, r.correlationId, r.aggregateId, r.key, payload⟩⟩) ∧
        report.claimed = batch.length ∧
        report.claimed = report.published + report.retried + report.deadLettered + report.storeErrors +
          diary.countP Encounter.isLate ∧
        report.published = diary.countP Encounter.isMarked ∧ report.retried = diary.countP Encounter.schedules ∧
        report.deadLettered = diary.countP Encounter.givesUp ∧ report.storeErrors = diary.countP Encounter.isLost := by
  intro found answer
  refine ⟨fun e he => ?_, fun batch store' hclaim hspare => ?_⟩
  · obtain ⟨v, hrun, -, hdiary⟩ := iteration_refused c s listening (w := .start store) he
    exact ⟨v, hrun, by rw [hdiary]; rfl⟩
  · obtain ⟨diary, v, hrun, hworks, hdiary⟩ := iteration_granted c s listening (w := .start store) hclaim hspare
    obtain ⟨hanswered, hmessages, hlength⟩ := hworks.told
    have hcount e (he : e ∈ diary) := Encounter.resolution_iff (hanswered e he)
    have hmarked := count_resolutions fun e he => (hcount e he).1
    have hscheduled := count_resolutions fun e he => (hcount e he).2.1
    have hgiven := count_resolutions fun e he => (hcount e he).2.2.1
    have hlate := count_resolutions fun e he => (hcount e he).2.2.2.1
    have hlost := count_resolutions fun e he => (hcount e he).2.2.2.2
    have hall := Report.length_resolutions (diary.filterMap Encounter.resolution?)
    rw [hlength, hmarked, hscheduled, hgiven, hlate, hlost] at hall
    rw [Report.foldl_count, hmarked, hscheduled, hgiven, hlost] at hrun
    refine ⟨_, diary, v, hrun, hdiary, hworks, hmessages, fun r m => Row.message?_eq_ok_iff, rfl, ?_, ?_, ?_, ?_, ?_⟩
    · simpa [Report.ofClaimed] using hall
    all_goals exact Nat.zero_add _

theorem interference_accounted_purged :
    let c : Company := ⟨⟨fun _ => .epoch, fun _ _ => .ok ()⟩, fun n =>
      if n = 3 then [.markProcessed ⟨.ofNat 7⟩ .epoch, .purge (Time.epoch.later 1)] else []⟩
    let s := Settings.standard "worker"
    let store := Store.empty.put (Row.sample 7)
    let batch := [(Row.sample 7).leasedTo "worker" (Time.epoch.later 30)]
    (∀ r ∈ batch, r.attempts ≠ 0xFFFFFFFF) ∧ ∃ diary v,
      c.iteration s false (.start store) = (.ok ⟨1, 0, 0, 0, 1⟩, v) ∧
      v.diary = ⟨store, .claim s.batchSize "worker" s.lease .epoch (.ok batch)⟩ :: diary ∧
      diary.filterMap Encounter.message? = batch.filterMap (fun r => (r.message? s.topic).toOption) ∧
      diary.countP Encounter.isLost = 1 := by
  intro c s store batch
  have hspare : ∀ r ∈ batch, r.attempts ≠ 0xFFFFFFFF := by decide +kernel
  have hclaim : (store.after (c.meanwhile 0)).claim s.batchSize s.workerId s.lease (c.clock 0) =
      .ok (batch, ⟨store.rows.insertAll batch⟩) := by decide +kernel
  have hreport : (c.iteration s false (.start store)).1 = .ok ⟨1, 0, 0, 0, 1⟩ := by decide +kernel
  obtain ⟨report, diary, v, hrun, hdiary, -, hmessages, -, -, -, -, -, -, hlost⟩ :=
    (interference_accounted c s false store).2 batch _ hclaim hspare
  rw [hrun] at hreport
  cases hreport
  exact ⟨hspare, diary, v, hrun, hdiary, hmessages, hlost.symm⟩

end Company

end Outbox
