import Outbox.Envelope
import Outbox.Proofs.Json.Members

namespace Outbox

namespace Json

def Tells (text : String) (s : Option String) : Prop :=
  readAll (optional string) text = .ok s ∧ (text = "null" ↔ s = none)

theorem readAll_quote {α : Type} {expected s : String} {decode : String → Except Mismatch α} {a : α}
    (h : decode s = .ok a) : readAll (textual expected decode) (quote s) = .ok a := by
  refine readAll_eq_ok ?_
  rw [← List.append_nil (quote s).toList]
  exact textual_quote h []

theorem tells_ofOption (s : Option String) : Tells (ofOption .text s).render s := by
  cases s with
  | none => exact ⟨rfl, by simp [ofOption, render]⟩
  | some s =>
      have hquote := toList_quote s
      refine ⟨readAll_eq_ok ?_, iff_of_false (fun h => ?_) (by simp)⟩
      · have hread : string ((quote s).toList ++ []) = .ok (s, []) := textual_quote rfl []
        rw [List.append_nil, hquote] at hread
        rw [ofOption, render, hquote, optional, skipSpace_cons rfl]
        simp [hread, Except.map]
      · rw [ofOption, render] at h
        rw [h] at hquote
        exact absurd (List.cons.inj hquote).1 (by decide)

theorem isValue_ofOption (s : Option String) : IsValue (ofOption .text s).render.toList := by
  cases s with
  | none => exact Own.null.isValue
  | some s => exact (Own.text s).isValue

end Json

namespace Envelope

open Json

/-- The text is an object of just seven members, in this order. The payload is written as it is, and each other member
is read back as what the envelope has there. -/
def Conveys (text : String) (e : Envelope) : Prop :=
  ∃ type id occurredAt correlationId aggregateId key : String,
    (∀ ms, IsObject text ms ↔ ms = [("\"type\"", type), ("\"eventId\"", id), ("\"occurredOnUtc\"", occurredAt),
      ("\"correlationId\"", correlationId), ("\"aggregateId\"", aggregateId), ("\"key\"", key),
      ("\"payload\"", e.payload)]) ∧
    readAll string type = .ok e.eventType ∧ readAll uuid id = .ok e.eventId.uuid ∧
    readAll time occurredAt = .ok e.occurredAt ∧ Tells correlationId e.correlationId ∧
    Tells aggregateId e.aggregateId ∧ Tells key e.key

theorem Conveys.unique {text : String} {e f : Envelope} (he : Conveys text e) (hf : Conveys text f) : e = f := by
  obtain ⟨type, id, occurredAt, correlationId, aggregateId, key, hms, htype, hid, htime, hcorrelation, haggregate,
    hkey⟩ := he
  obtain ⟨type', id', occurredAt', correlationId', aggregateId', key', hms', htype', hid', htime', hcorrelation',
    haggregate', hkey'⟩ := hf
  have hsame := (hms' _).1 ((hms _).2 rfl)
  simp only [List.cons.injEq, Prod.mk.injEq, true_and, and_true] at hsame
  obtain ⟨rfl, rfl, rfl, rfl, rfl, rfl, hpayload⟩ := hsame
  obtain ⟨eventType, ⟨uuid⟩, t, correlation, aggregate, k, payload⟩ := e
  obtain ⟨eventType', ⟨uuid'⟩, t', correlation', aggregate', k', payload'⟩ := f
  have hread {α : Type} {x : Except Json.Error α} {a b : α} (ha : x = .ok a) (hb : x = .ok b) : a = b :=
    Except.ok.inj (ha.symm.trans hb)
  simp only [Envelope.mk.injEq, EventId.mk.injEq]
  exact ⟨hread htype htype', hread hid hid', hread htime htime', hread hcorrelation.1 hcorrelation'.1,
    hread haggregate.1 haggregate'.1, hread hkey.1 hkey'.1, hpayload⟩

theorem conveys_text {e : Envelope} (h : IsValue e.payload.toList) : Conveys e.text e := by
  have htext (s : String) : IsValue (Json.text s).render.toList := (Own.text s).isValue
  have hobject := isObject_render [("type", .text e.eventType), ("eventId", .text e.eventId.text),
    ("occurredOnUtc", .text e.occurredAt.text), ("correlationId", .ofOption .text e.correlationId),
    ("aggregateId", .ofOption .text e.aggregateId), ("key", .ofOption .text e.key), ("payload", .raw e.payload)] (by
      simp only [List.forall_mem_cons]
      exact ⟨htext _, htext _, htext _, isValue_ofOption _, isValue_ofOption _, isValue_ofOption _, h, by simp⟩)
  have hnames : ["type", "eventId", "occurredOnUtc", "correlationId", "aggregateId", "key", "payload"].map quote =
      ["\"type\"", "\"eventId\"", "\"occurredOnUtc\"", "\"correlationId\"", "\"aggregateId\"", "\"key\"",
        "\"payload\""] := by decide
  simp only [List.map_cons, List.map_nil, List.cons.injEq, and_true] at hnames
  simp only [List.map_cons, List.map_nil, hnames] at hobject
  refine ⟨quote e.eventType, quote e.eventId.text, quote e.occurredAt.text,
    (Json.ofOption .text e.correlationId).render, (Json.ofOption .text e.aggregateId).render,
    (Json.ofOption .text e.key).render, fun ms => ⟨fun hms => ?_, ?_⟩,
    readAll_quote rfl, readAll_quote ?_, readAll_quote ?_, tells_ofOption _, tells_ofOption _, tells_ofOption _⟩
  · exact hms.unique hobject
  · rintro rfl
    exact hobject
  · rw [EventId.text, Uuid.read_text]
    rfl
  · rw [Time.read_text]
    rfl

variable {eventType : String} {id : EventId} {occurredAt : Time} {correlationId aggregateId key : Option String}
  {payload : String} {e : Envelope}

theorem of?_eq_ok : of? eventType id occurredAt correlationId aggregateId key payload = .ok e ↔
    ∃ v, Holds payload v ∧ e = ⟨eventType, id, occurredAt, correlationId, aggregateId, key, v⟩ := by
  simp only [← trimmed_eq_ok_iff, of?]
  cases trimmed payload with
  | error e => simp
  | ok v => simp [eq_comm]

theorem conveys_of_ok (h : of? eventType id occurredAt correlationId aggregateId key payload = .ok e) :
    Conveys e.text e := by
  obtain ⟨v, ⟨-, -, -, -, hv, -⟩, rfl⟩ := of?_eq_ok.1 h
  exact conveys_text hv

/-- A payload is accepted exactly if it is the text of one JSON value, with or without blanks around it, and is then
without these, character for character, the last of the seven members that the message has, whatever is in it and in
the other fields. No other envelope has the same message. -/
theorem payload_embedded (eventType : String) (id : EventId) (occurredAt : Time)
    (correlationId aggregateId key : Option String) (payload : String) :
    ((∃ e, of? eventType id occurredAt correlationId aggregateId key payload = .ok e) ↔ ∃ v, Holds payload v) ∧
    ∀ e, of? eventType id occurredAt correlationId aggregateId key payload = .ok e →
      Holds payload e.payload ∧ e = ⟨eventType, id, occurredAt, correlationId, aggregateId, key, e.payload⟩ ∧
      Conveys e.text e ∧
      ∀ f payload', of? f.eventType f.eventId f.occurredAt f.correlationId f.aggregateId f.key payload' = .ok f →
        f.text = e.text → f = e := by
  refine ⟨?_, fun e he => ?_⟩
  · simp only [of?_eq_ok]
    constructor
    · rintro ⟨-, v, hv, -⟩
      exact ⟨v, hv⟩
    · rintro ⟨v, hv⟩
      exact ⟨_, v, hv, rfl⟩
  · have hconveys := conveys_of_ok he
    obtain ⟨v, hv, rfl⟩ := of?_eq_ok.1 he
    refine ⟨hv, rfl, hconveys, fun f payload' hf hsame => ?_⟩
    have hconveys' := conveys_of_ok hf
    rw [hsame] at hconveys'
    exact hconveys'.unique hconveys

/-- An envelope whose payload holds what could end the message, a name twice, a number out of range and half a
character. -/
def intricate : Envelope where
  eventType := "a\"b"
  eventId := ⟨.ofNat 42⟩
  occurredAt := .epoch
  correlationId := some "\\"
  aggregateId := none
  key := some "\x00"
  payload := "\x7b\"a\":\"\\\"\x7d,\",\"a\":[1e999,\"\\ud800\"]\x7d"

theorem payload_embedded_intricate :
    of? "a\"b" ⟨.ofNat 42⟩ .epoch (some "\\") none (some "\x00") (" " ++ intricate.payload ++ "\n") = .ok intricate ∧
      Conveys intricate.text intricate := by
  have h : of? "a\"b" ⟨.ofNat 42⟩ .epoch (some "\\") none (some "\x00") (" " ++ intricate.payload ++ "\n") =
      .ok intricate := by rfl
  exact ⟨h, ((payload_embedded _ _ _ _ _ _ _).2 _ h).2.2.1⟩

end Envelope

end Outbox
