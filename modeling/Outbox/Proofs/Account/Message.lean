import Outbox.Proofs.Account.Journal
import Outbox.Proofs.Envelope.Message
import Outbox.Proofs.Row
import Outbox.Worker.Iteration

namespace Outbox

open AccountService

/-- The message of a row tells of a record, and nothing but its publisher can keep it back. -/
structure Row.Announces (r : Row) (correlationId : Option String) (record : EventRecord AccountEvent) (e : Envelope) :
    Prop where
  envelope : r.envelope? = .ok e
  message : ∀ topic, r.message? topic = .ok ⟨topic, record.body.account.simple, e.text⟩
  delivered : ∀ (m : Type → Type) [Monad m] (b : Backend m) (s : Settings), Worker.deliver s r b =
    ExceptT.mk (b.publish ⟨s.topic, record.body.account.simple, e.text⟩) >>= fun answer =>
      pure (answer.mapError .publish)
  conveys : Envelope.Conveys e.text e
  payload : EventRecord.parse e.payload = .ok { record with aggregate := none }
  type : e.eventType = "accounts.account." ++ record.body.kind.name
  id : e.eventId = record.id ∧ r.id = record.id
  time : e.occurredAt = record.occurredAt ∧ r.occurredAt = record.occurredAt
  aggregateId : e.aggregateId = some record.body.account.simple
  key : e.key = some record.body.account.simple
  correlationId : e.correlationId = correlationId

namespace Row

variable {correlationId : Option String} {createdAt now : Time} {record : EventRecord AccountEvent}
  {event : AccountEvent} {r : Row}

theorem envelope?_asStaged (r : Row) : r.asStaged.envelope? = r.envelope? := rfl

theorem envelope?_ofRecord (correlationId : Option String) (createdAt : Time) (record : EventRecord AccountEvent) :
    (ofRecord correlationId createdAt record).envelope? = .ok ⟨record.body.typeTag, record.id, record.occurredAt,
      correlationId, record.aggregate.map (·.aggregateId), record.aggregate.bind (·.key), record.text⟩ :=
  Envelope.of?_eq_ok.2 ⟨record.text, Json.trimmed_eq_ok_iff.1 record.trimmed_text, rfl⟩

theorem announces_ofRecord (h : AccountEvent.Records now event record)
    (hr : r.asStaged = ofRecord correlationId createdAt record) : ∃ e, r.Announces correlationId record e := by
  obtain ⟨id, rfl⟩ := h
  let record : EventRecord AccountEvent := .of id now event (some (.ofAggregate event.account.simple))
  let e : Envelope := ⟨event.typeTag, id, now, correlationId, some event.account.simple, some event.account.simple,
    record.text⟩
  have henvelope : r.envelope? = .ok e := by
    rw [← envelope?_asStaged, hr]
    exact envelope?_ofRecord correlationId createdAt record
  have hmessage (topic : String) : r.message? topic = .ok ⟨topic, event.account.simple, e.text⟩ := by
    rw [message?, henvelope]
    rfl
  obtain ⟨-, -, -, -, hvalue, -⟩ := Json.trimmed_eq_ok_iff.1 record.trimmed_text
  refine ⟨e, henvelope, hmessage, fun m _ b s => ?_, Envelope.conveys_text hvalue, record.parse_text, rfl,
    ⟨rfl, congrArg Row.id hr⟩, ⟨rfl, congrArg Row.occurredAt hr⟩, rfl, rfl, rfl⟩
  rw [Worker.deliver, hmessage]
  rfl

end Row

theorem AccountEvent.exists_records {now : Time} {es : List AccountEvent} {ids : IdSource}
    {record : EventRecord AccountEvent} (h : record ∈ (recordAll now es ids).1) :
    ∃ event, Records now event record := by
  induction es generalizing ids with
  | nil => cases h
  | cons event es ih =>
      rcases List.mem_cons.1 h with rfl | h
      · exact ⟨event, _, rfl⟩
      · exact ih h

namespace Office

variable {ι : Type} [DecidableEq ι]

def Builds (o : Office ι) (c : Call ι) (record : EventRecord AccountEvent) : Prop :=
  ∃ b es rest, Granted o.accounts c.order (o.ids c.service) c.now c.request b es rest ∧
    record ∈ (AccountEvent.recordAll c.now es rest).1

theorem mem_journal {o : Office ι} {cs : List (Call ι)} {r : Row} (h : r ∈ o.journal cs) :
    ∃ before c later, cs = before ++ c :: later ∧ r ∈ (o.after before).committed c := by
  induction cs generalizing o with
  | nil => cases h
  | cons c cs ih =>
      rcases List.mem_append.1 h with h | h
      · exact ⟨[], c, cs, rfl, h⟩
      · obtain ⟨before, c', later, rfl, hr⟩ := ih h
        exact ⟨c :: before, c', later, rfl, hr⟩

theorem builds_committed {o : Office ι} {c : Call ι} {r : Row} (h : r ∈ o.committed c) :
    ∃ event record, o.Builds c record ∧ AccountEvent.Records c.now event record ∧
      r = .ofRecord c.correlationId c.now record := by
  rcases o.serve_cases c with ⟨-, hnone, -⟩ | ⟨b, es, rest, -, hgrant, hrows, -⟩
  · rw [hnone] at h
    cases h
  · rw [hrows] at h
    obtain ⟨record, hrecord, rfl⟩ := List.mem_map.1 h
    obtain ⟨event, hevent⟩ := AccountEvent.exists_records hrecord
    exact ⟨event, record, ⟨b, es, rest, hgrant, hrecord⟩, hevent, rfl⟩

theorem key_of_message? {now : Time} {correlationId : Option String} {event : AccountEvent}
    {record : EventRecord AccountEvent} (h : AccountEvent.Records now event record) {topic : String} {m : Message}
    (hm : (Row.ofRecord correlationId now record).message? topic = .ok m) : m.key = record.body.account.simple := by
  obtain ⟨e, he⟩ := Row.announces_ofRecord (r := .ofRecord correlationId now record) h rfl
  rw [he.message] at hm
  cases hm
  rfl

/-- Every row that the services commit has a message for as long as the row lasts. It tells of a record that was built
for the call, under the one name of the account, and no other account goes by that name. -/
theorem journal_announced (o : Office ι) (cs : List (Call ι)) :
    (∀ r ∈ o.journal cs, r.IsStaged ∧ ∃ before c later record, cs = before ++ c :: later ∧
      (o.after before).Builds c record ∧ record.body.account.uuid.IsWritten record.body.account.simple ∧
      ∀ q : Row, q.asStaged = r → ∃ e, q.Announces c.correlationId record e) ∧
    ∀ r ∈ o.journal cs, ∀ q ∈ o.journal cs, ∀ topic m n, r.message? topic = .ok m → q.message? topic = .ok n →
      (m.key = n.key ↔ r.record?.map (·.body.account) = q.record?.map (·.body.account)) := by
  constructor
  · intro r hr
    obtain ⟨before, c, later, hcs, hr⟩ := mem_journal hr
    obtain ⟨event, record, hbuilds, hrecord, rfl⟩ := builds_committed hr
    exact ⟨rfl, before, c, later, record, hcs, hbuilds, record.body.account.uuid.isWritten_simple,
      fun q hq => Row.announces_ofRecord hrecord hq⟩
  · intro r hr q hq topic m n hm hn
    obtain ⟨_, _, _, -, hcommitted⟩ := mem_journal hr
    obtain ⟨_, _, _, -, hcommitted'⟩ := mem_journal hq
    obtain ⟨_, record, -, hrecord, rfl⟩ := builds_committed hcommitted
    obtain ⟨_, record', -, hrecord', rfl⟩ := builds_committed hcommitted'
    rw [key_of_message? hrecord hm, key_of_message? hrecord' hn, Row.record?_ofRecord, Row.record?_ofRecord]
    simp only [Option.map_some, Option.some.injEq]
    exact AccountId.simple_injective.eq_iff

def createdAndRenamed : List (Call Unit) :=
  [⟨(), .byId, .epoch, some "c-1", .create "Ana \"A\"" "11144477735"⟩,
    ⟨(), .byId, .epoch, some "c-1", .changeName ⟨.ofWord 1⟩ "\\"⟩]

theorem journal_announced_renamed : ∃ r record e,
    ((opened fun _ : Unit => .sequential 1).journal createdAndRenamed)[1]? = some r ∧
      r.eventType = "accounts.account.name_changed" ∧ r.Announces (some "c-1") record e := by
  have htypes : ((opened fun _ : Unit => .sequential 1).journal createdAndRenamed).map (·.eventType) =
      ["accounts.account.created", "accounts.account.name_changed", "accounts.account.updated"] := by decide +kernel
  have hcalls : ∀ c ∈ createdAndRenamed, c.correlationId = some "c-1" := by simp [createdAndRenamed]
  have hsecond := congrArg (·[1]?) htypes
  simp only [List.getElem?_map, List.getElem?_cons_succ, List.getElem?_cons_zero, Option.map_eq_some_iff] at hsecond
  obtain ⟨r, hr, htype⟩ := hsecond
  obtain ⟨hstaged, before, c, later, record, hcs, -, -, hannounces⟩ :=
    (journal_announced _ createdAndRenamed).1 r (List.mem_of_getElem? hr)
  obtain ⟨e, he⟩ := hannounces r hstaged
  rw [hcalls c (by rw [hcs]; simp)] at he
  exact ⟨r, record, e, hr, htype, he⟩

end Office

end Outbox
