import Outbox.Proofs.Envelope.Message
import Outbox.Worker.Iteration

namespace Outbox

namespace Row

theorem eventId_of_envelope? {r : Row} {e : Envelope} (h : r.envelope? = .ok e) : e.eventId = r.id := by
  unfold envelope? Envelope.of? at h
  split at h
  · cases h
    rfl
  · cases h

theorem message?_eq_ok {r : Row} {topic : String} {m : Message} (h : r.message? topic = .ok m) :
    ∃ e, r.envelope? = .ok e ∧ m = ⟨topic, e.partitionKey, e.text⟩ := by
  unfold message? at h
  cases he : r.envelope? with
  | error e => rw [he] at h; cases h
  | ok e => rw [he] at h; cases h; exact ⟨e, rfl, rfl⟩

theorem message?_eq_ok_iff {r : Row} {topic : String} {m : Message} : r.message? topic = .ok m ↔
    ∃ v, Json.Holds r.payload v ∧ m = ⟨topic, r.partitionKey,
      Envelope.text ⟨r.eventType, r.id, r.occurredAt, r.correlationId, r.aggregateId, r.key, v⟩⟩ := by
  have henvelope {e : Envelope} : r.envelope? = .ok e ↔ _ := Envelope.of?_eq_ok
  constructor
  · intro h
    obtain ⟨e, he, rfl⟩ := message?_eq_ok h
    obtain ⟨v, hv, rfl⟩ := henvelope.1 he
    exact ⟨v, hv, rfl⟩
  · rintro ⟨v, hv, rfl⟩
    rw [message?, henvelope.2 ⟨v, hv, rfl⟩]
    rfl

theorem id_of_message? {r q : Row} {topic topic' : String} {m m' : Message} (hr : r.message? topic = .ok m)
    (hq : q.message? topic' = .ok m') (h : m.text = m'.text) : r.id = q.id := by
  obtain ⟨e, he, rfl⟩ := message?_eq_ok hr
  obtain ⟨f, hf, rfl⟩ := message?_eq_ok hq
  have hsame : e.text = f.text := h
  have hconveys := Envelope.conveys_of_ok hf
  rw [← hsame] at hconveys
  rw [← eventId_of_envelope? he, ← eventId_of_envelope? hf, (Envelope.conveys_of_ok he).unique hconveys]

end Row

end Outbox
