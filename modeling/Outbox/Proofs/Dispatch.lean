import Outbox.Proofs.Account.Draft
import Outbox.Proofs.Row

namespace Outbox

def Encoder.failure? {β : Type} (encoder : Encoder β) (r : EventRecord β) : Option EncodingError :=
  match encoder.encode r with
  | .ok _ => none
  | .error e => some e

namespace Dispatch

variable {β σ : Type} {encoder : Encoder β} {correlationId : Option String} {now : Time}
  {records xs ys : List (EventRecord β)} {r : EventRecord β} {e : EncodingError} {qs ps : List Row}

/-- A row tells of a record under the given correlation id. All that the record does not say is as in a new row. -/
structure Tells (encoder : Encoder β) (correlationId : Option String) (now : Time) (r : EventRecord β) (q : Row) :
    Prop where
  id : q.id = r.id
  occurredAt : q.occurredAt = r.occurredAt
  eventType : q.eventType = encoder.typeTag r
  payload : encoder.encode r = .ok q.payload
  correlationId : q.correlationId = correlationId
  aggregateId : q.aggregateId = r.aggregate.map (·.aggregateId)
  key : q.key = r.aggregate.bind (·.key)
  createdAt : q.createdAt = now
  attempts : q.attempts = 0
  unleased : q.lockedBy = none ∧ q.lockedUntil = none
  unresolved : q.processedAt = none ∧ q.deadLetteredAt = none
  unfailed : q.error = none ∧ q.nextAttemptAt = none

theorem row_of_failure (h : encoder.failure? r = some e) : row encoder correlationId now r = .error e := by
  unfold Encoder.failure? at h
  cases hr : encoder.encode r with
  | ok text =>
      rw [hr] at h
      cases h
  | error e' =>
      rw [hr] at h
      cases h
      rw [row, hr]
      rfl

theorem row_of_none (correlationId : Option String) (now : Time) (h : encoder.failure? r = none) :
    ∃ q, row encoder correlationId now r = .ok q ∧ Tells encoder correlationId now r q := by
  unfold Encoder.failure? at h
  cases hr : encoder.encode r with
  | ok text =>
      rw [row, hr]
      exact ⟨_, rfl, rfl, rfl, rfl, hr, rfl, rfl, rfl, rfl, rfl, ⟨rfl, rfl⟩, ⟨rfl, rfl⟩, rfl, rfl⟩
  | error e =>
      rw [hr] at h
      cases h

theorem rows_of_failure (h : records.findSome? encoder.failure? = some e) :
    rows encoder correlationId now records = .error e := by
  induction records with
  | nil => cases h
  | cons r records ih =>
      rw [List.findSome?_cons] at h
      cases hr : encoder.failure? r with
      | some e' =>
          rw [hr] at h
          cases h
          rw [rows, row_of_failure hr]
      | none =>
          rw [hr] at h
          obtain ⟨q, hq, -⟩ := row_of_none correlationId now hr
          rw [rows, hq, ih h]
          rfl

theorem rows_of_none (correlationId : Option String) (now : Time) (h : records.findSome? encoder.failure? = none) :
    ∃ qs, rows encoder correlationId now records = .ok qs ∧
      List.Forall₂ (Tells encoder correlationId now) records qs := by
  induction records with
  | nil => exact ⟨[], rfl, .nil⟩
  | cons r records ih =>
      obtain ⟨hr, hrest⟩ := List.forall_mem_cons.1 (List.findSome?_eq_none_iff.1 h)
      obtain ⟨q, hq, htells⟩ := row_of_none correlationId now hr
      obtain ⟨qs, hqs, hall⟩ := ih (List.findSome?_eq_none_iff.2 hrest)
      refine ⟨q :: qs, ?_, .cons htells hall⟩
      rw [rows, hq, hqs]
      rfl

theorem rows_append (encoder : Encoder β) (correlationId : Option String) (now : Time) (xs ys : List (EventRecord β)) :
    rows encoder correlationId now (xs ++ ys) =
      rows encoder correlationId now xs >>= fun ps => (rows encoder correlationId now ys).map (ps ++ ·) := by
  induction xs with
  | nil => cases h : rows encoder correlationId now ys <;> simp [rows, h, bind, Except.bind, Except.map]
  | cons r xs ih =>
      rw [List.cons_append, rows, rows, ih]
      cases row encoder correlationId now r with
      | error e => rfl
      | ok q =>
          cases rows encoder correlationId now xs with
          | error e => rfl
          | ok ps => cases rows encoder correlationId now ys <;> rfl

theorem enqueue_of_error (add : Staging σ) (area : σ) (h : rows encoder correlationId now records = .error e) :
    (enqueue encoder add now area records correlationId).value = (.error (.encoding e), area) := by
  cases records with
  | nil => cases h
  | cons r records => simp [enqueue, h]

theorem enqueue_of_ok (add : Staging σ) {area after : σ} (h : rows encoder correlationId now records = .ok qs)
    (hadd : add area qs = (.ok (), after)) (hempty : qs = [] → after = area) :
    (enqueue encoder add now area records correlationId).value = (.ok qs.length, after) := by
  cases records with
  | nil =>
      -- Without records the area is not asked to add any rows.
      cases h
      rw [hempty rfl]
      rfl
  | cons r records => simp [enqueue, h, hadd]

inductive Area
  | list (staged : List Row)
  | unit (u : UnitOfWork)

namespace Area

def append (rows : List Row) : Area → Area
  | .list staged => .list (staged ++ rows)
  | .unit u => .unit { u with staged := u.staged ++ rows }

def enqueue (encoder : Encoder β) (correlationId : Option String) (now : Time) (records : List (EventRecord β)) :
    Area → Except DispatchError Nat × Area
  | .list staged => (Dispatch.enqueue encoder .list now staged records correlationId).value.map id .list
  | .unit u => (Dispatch.enqueue encoder .unit now u records correlationId).value.map id .unit

theorem append_append (area : Area) (ps qs : List Row) : (area.append ps).append qs = area.append (ps ++ qs) := by
  cases area <;> simp [append]

theorem enqueue_of_error (area : Area) (h : rows encoder correlationId now records = .error e) :
    area.enqueue encoder correlationId now records = (.error (.encoding e), area) := by
  cases area with
  | list staged => rw [enqueue, Dispatch.enqueue_of_error .list staged h]; rfl
  | unit u => rw [enqueue, Dispatch.enqueue_of_error .unit u h]; rfl

theorem enqueue_of_ok (area : Area) (h : rows encoder correlationId now records = .ok qs) :
    area.enqueue encoder correlationId now records = (.ok qs.length, area.append qs) := by
  cases area with
  | list staged =>
      have hnil : qs = [] → staged ++ qs = staged := fun hqs => by rw [hqs, List.append_nil]
      rw [enqueue, Dispatch.enqueue_of_ok .list h rfl hnil]
      rfl
  | unit u =>
      have hnil : qs = [] → u.stage qs = u := fun hqs => by rw [hqs, UnitOfWork.stage, List.append_nil]
      rw [enqueue, Dispatch.enqueue_of_ok .unit h rfl hnil]
      rfl

end Area

/-- Records are staged all or none, and if none then because of the first that cannot be written. Each row tells of its
record and follows the rows of the records before it. To enqueue some records and then others at the same time is to
enqueue them all, unless one of them cannot be written: then none of all are staged. -/
theorem enqueue_all_or_none (encoder : Encoder β) (correlationId : Option String) (now : Time) (area : Area) :
    (∀ records e, records.findSome? encoder.failure? = some e →
      area.enqueue encoder correlationId now records = (.error (.encoding e), area)) ∧
    (∀ records, records.findSome? encoder.failure? = none →
      ∃ rows, List.Forall₂ (Tells encoder correlationId now) records rows ∧
        area.enqueue encoder correlationId now records = (.ok records.length, area.append rows)) ∧
    ∀ xs ys,
      let first := area.enqueue encoder correlationId now xs
      let second := first.2.enqueue encoder correlationId now ys
      let whole := area.enqueue encoder correlationId now (xs ++ ys)
      (∀ n m, first.1 = .ok n → second.1 = .ok m → whole = (.ok (n + m), second.2)) ∧
      (∀ e, first.1 = .error e → whole = (.error e, area)) ∧
      ∀ n e, first.1 = .ok n → second.1 = .error e → whole = (.error e, area) := by
  refine ⟨fun records e h => ?_, fun records h => ?_, fun xs ys => ?_⟩
  · exact area.enqueue_of_error (rows_of_failure h)
  · obtain ⟨qs, hqs, htell⟩ := rows_of_none correlationId now h
    refine ⟨qs, htell, ?_⟩
    rw [htell.length_eq]
    exact area.enqueue_of_ok hqs
  · intro first second whole
    have hboth := rows_append encoder correlationId now xs ys
    cases hxs : rows encoder correlationId now xs with
    | error e =>
        have hfirst : first = (.error (.encoding e), area) := area.enqueue_of_error hxs
        have hwhole : whole = (.error (.encoding e), area) := area.enqueue_of_error (by rw [hboth, hxs]; rfl)
        simp [hfirst, hwhole]
    | ok ps =>
        have hfirst : first = (.ok ps.length, area.append ps) := area.enqueue_of_ok hxs
        cases hys : rows encoder correlationId now ys with
        | error e =>
            have hsecond : second = (.error (.encoding e), first.2) := first.2.enqueue_of_error hys
            have hwhole : whole = (.error (.encoding e), area) := area.enqueue_of_error (by rw [hboth, hxs, hys]; rfl)
            simp [hfirst, hsecond, hwhole]
        | ok qs =>
            have hsecond : second = (.ok qs.length, first.2.append qs) := first.2.enqueue_of_ok hys
            have hwhole : whole = (.ok (ps ++ qs).length, area.append (ps ++ qs)) :=
              area.enqueue_of_ok (by rw [hboth, hxs, hys]; rfl)
            simp [hfirst, hsecond, hwhole, Area.append_append]

def notice (n : UInt64) : EventRecord AccountEvent :=
  .of ⟨.ofWord n⟩ .epoch (.deactivated ⟨.ofWord 7⟩) (some (.ofAggregate "seven"))

def refusing (id : EventId) : Encoder AccountEvent where
  encode r := if r.id = id then .error (.unwritable r.typeTag "refused") else Encoder.json.encode r
  typeTag := EventRecord.typeTag

theorem enqueue_all_or_none_refusing :
    let encoder := refusing (notice 2).id
    let area := Area.unit (UnitOfWork.start.stage [Row.sample 9])
    let enqueue := fun records (area : Area) => area.enqueue encoder (some "request") .epoch records
    let failure := DispatchError.encoding (.unwritable "accounts.account.deactivated" "refused")
    enqueue [notice 1, notice 2, notice 3] area = (.error failure, area) ∧
      (∃ rows, List.Forall₂ (Tells encoder (some "request") .epoch) [notice 1, notice 3] rows ∧
        enqueue [notice 1, notice 3] area = (.ok 2, area.append rows)) ∧
      enqueue [notice 1, notice 3] area = (.ok 2, (enqueue [notice 3] (enqueue [notice 1] area).2).2) ∧
      enqueue [notice 1, notice 2] area = (.error failure, area) := by
  intro encoder area enqueue failure
  obtain ⟨hfail, hstage, hlaw⟩ := enqueue_all_or_none encoder (some "request") .epoch area
  refine ⟨hfail _ _ rfl, hstage _ rfl, ?_, ?_⟩
  · exact (hlaw [notice 1] [notice 3]).1 1 1 rfl rfl
  · exact (hlaw [notice 1] [notice 2]).2.2 1 _ rfl rfl

end Dispatch

end Outbox
