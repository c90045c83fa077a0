import Outbox.Event.Reader
import Outbox.Proofs.Json.Content
import Outbox.Proofs.Json.Raw

namespace Outbox

open Json

namespace AccountEvent

def content : Json → Content
  | .flag b => .flag b
  | .text s => .text s
  | _ => .null

def kept (e : AccountEvent) : List (String × Content) :=
  ("accountId", .text e.account.text) :: e.particulars.map fun m => (m.1, content m.2)

theorem kinds_lookup (k : Kind) : kinds.lookup k.name = some k := by
  cases k <;> decide

theorem kept_members (e : AccountEvent) :
    List.Forall₂ (KeptMember "kind") (("accountId", .text e.account.text) :: e.particulars) e.kept := by
  cases e <;> simp [kept, particulars, content, KeptMember, Kept.flag, Kept.text]

theorem asUuid_text (u : Uuid) : (Content.text u.text).asUuid = .ok u := by
  simp [Content.asUuid, Content.textual, Uuid.read_text, Except.mapError]

theorem asTime_text (t : Time) : (Content.text t.text).asTime = .ok t := by
  simp [Content.asTime, Content.textual, Time.read_text, Except.mapError]

theorem ofTagged_kept (e : AccountEvent) : ofTagged (.object e.kind e.kept) = .ok e := by
  cases e <;>
    simp [ofTagged, kept, particulars, content, kind, Kind.decoders, Kind.fields, keptMembers, List.lookup_cons,
      Particular.Form.decode, account, AccountId.text, asUuid_text, asTime_text, wholeAccount, Except.map]
  all_goals rfl

theorem reads_body (e : AccountEvent) : Reads (read 127) e.toJson e := by
  intro c rest _
  have hkind : Reads (variant kinds) (.text e.kind.name) e.kind := (readsSpaced_variant (kinds_lookup e.kind)).reads
  rw [read, toJson, tagged_render hkind (kept_members e) _ (by decide)]
  simp [bind, Except.bind, ofTagged_kept, pure, Except.pure]

end AccountEvent

namespace EventRecord

def memberJson (r : EventRecord AccountEvent) : List (String × Json) :=
  [("eventId", Json.text r.id.text), ("occurredOnUtc", .text r.occurredAt.text),
    ("version", .number r.version.toNat), ("body", r.body.toJson)]

def text (r : EventRecord AccountEvent) : String := (Json.object r.memberJson).render

theorem encode_json (r : EventRecord AccountEvent) : Encoder.json.encode r = .ok r.text := rfl

theorem slotted_id (r : EventRecord AccountEvent) : Slotted fields ("eventId", .text r.id.text) (.id r.id) := by
  refine ⟨_, rfl, fun c rest hc => ?_⟩
  simp only [Slot.required, EventId.text, (readsSpaced_uuid _).reads c rest hc]
  rfl

theorem slotted_time (r : EventRecord AccountEvent) :
    Slotted fields ("occurredOnUtc", .text r.occurredAt.text) (.time r.occurredAt) := by
  refine ⟨_, rfl, fun c rest hc => ?_⟩
  simp only [Slot.required, (readsSpaced_time _).reads c rest hc]
  rfl

theorem slotted_version (r : EventRecord AccountEvent) :
    Slotted fields ("version", .number r.version.toNat) (.version r.version) := by
  refine ⟨_, rfl, fun c rest hc => ?_⟩
  simp only [(readsSpaced_word32 _).reads c rest hc]
  rfl

theorem slotted_body (r : EventRecord AccountEvent) : Slotted fields ("body", r.body.toJson) (.body r.body) := by
  refine ⟨_, rfl, fun c rest hc => ?_⟩
  simp only [Slot.required, AccountEvent.reads_body _ c rest hc]
  rfl

theorem parse_of_slotted {ms : List (String × Json)} {bs bs' : List Member} {r : EventRecord AccountEvent}
    (hms : List.Forall₂ (Slotted fields) ms bs) (hnames : (ms.map (·.1)).Nodup)
    (horder : inOrder ((ms.map (·.1)).zip bs) fields = .ok bs') (hbuild : ofMembers bs' = .ok r) :
    parse (Json.object ms).render = .ok r := by
  have hread :=
    record_render "struct EventRecord" "struct EventRecord with 4 elements" false hms hnames horder hbuild []
  rw [List.append_nil] at hread
  exact readAll_eq_ok hread

theorem parse_text (r : EventRecord AccountEvent) : parse r.text = .ok { r with aggregate := none } := by
  have hms : List.Forall₂ (Slotted fields) r.memberJson
      [.id r.id, .time r.occurredAt, .version r.version, .body r.body] :=
    .cons r.slotted_id (.cons r.slotted_time (.cons r.slotted_version (.cons r.slotted_body .nil)))
  have hnames : (r.memberJson.map (·.1)).Nodup := show ["eventId", "occurredOnUtc", "version", "body"].Nodup by decide
  exact parse_of_slotted hms hnames rfl rfl

theorem own_memberJson (r : EventRecord AccountEvent) : Own (.object r.memberJson) := by
  have hbody : Own r.body.toJson := by
    refine .object _ ?_
    cases r.body <;> simp [AccountEvent.particulars, Own.text, Own.flag]
  refine .object _ ?_
  simp [memberJson, Own.text, Own.number, hbody]

theorem trimmed_text (r : EventRecord AccountEvent) : Json.trimmed r.text = .ok r.text :=
  trimmed_render r.own_memberJson

def opening (r : EventRecord AccountEvent) : String :=
  "\x7b" ++ quote "eventId" ++ ":" ++ quote r.id.text ++ "," ++ quote "occurredOnUtc" ++ ":" ++
    quote r.occurredAt.text ++ ","

def versionMember (r : EventRecord AccountEvent) : String :=
  quote "version" ++ ":" ++ Text.natText r.version.toNat ++ ","

def closing (r : EventRecord AccountEvent) : String := quote "body" ++ ":" ++ r.body.toJson.render ++ "\x7d"

theorem text_eq (r : EventRecord AccountEvent) : r.text = r.opening ++ r.versionMember ++ r.closing := by
  simp [text, memberJson, render, renderMembers, opening, versionMember, closing, String.append_assoc]

def unversioned (r : EventRecord AccountEvent) : List (String × Json) :=
  [("eventId", .text r.id.text), ("occurredOnUtc", .text r.occurredAt.text), ("body", r.body.toJson)]

theorem render_unversioned (r : EventRecord AccountEvent) :
    (Json.object r.unversioned).render = r.opening ++ r.closing := by
  simp [unversioned, render, renderMembers, opening, closing, String.append_assoc]

theorem parse_unversioned (r : EventRecord AccountEvent) :
    parse (r.opening ++ r.closing) = .ok { r with version := 1, aggregate := none } := by
  have hms : List.Forall₂ (Slotted fields) r.unversioned [.id r.id, .time r.occurredAt, .body r.body] :=
    .cons r.slotted_id (.cons r.slotted_time (.cons r.slotted_body .nil))
  have hnames : (r.unversioned.map (·.1)).Nodup := show ["eventId", "occurredOnUtc", "body"].Nodup by decide
  rw [← render_unversioned]
  exact parse_of_slotted hms hnames rfl rfl

/-- Every record can be written, and its text says all that is in it but the aggregate. -/
theorem encoding_lossless (r : EventRecord AccountEvent) :
    Encoder.json.encode r = .ok (r.opening ++ r.versionMember ++ r.closing) ∧
      parse (r.opening ++ r.versionMember ++ r.closing) = .ok { r with aggregate := none } ∧
      parse (r.opening ++ r.closing) = .ok { r with version := 1, aggregate := none } ∧
      ∀ q : EventRecord AccountEvent, Encoder.json.encode q = Encoder.json.encode r ↔
        q.id = r.id ∧ q.occurredAt = r.occurredAt ∧ q.version = r.version ∧ q.body = r.body := by
  rw [← text_eq]
  refine ⟨encode_json r, parse_text r, parse_unversioned r, fun q => ?_⟩
  constructor
  · intro h
    rw [encode_json, encode_json] at h
    have hq := parse_text q
    rw [Except.ok.inj h, parse_text] at hq
    have hsame := Except.ok.inj hq
    simp only [EventRecord.mk.injEq] at hsame
    obtain ⟨hid, htime, hversion, hbody, -⟩ := hsame
    exact ⟨hid.symm, htime.symm, hversion.symm, hbody.symm⟩
  · rintro ⟨hid, htime, hversion, hbody⟩
    rw [encode_json, encode_json, text, text, memberJson, memberJson, hid, htime, hversion, hbody]

end EventRecord

end Outbox
