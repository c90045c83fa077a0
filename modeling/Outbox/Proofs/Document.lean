import Outbox.Event.Reader
import Outbox.Proofs.Json.Survival
import Outbox.Retry.Reader
import Outbox.Row.Reader

namespace Outbox

open Json

namespace AggregateKey

def entries (k : AggregateKey) : List (Entry (Option String)) :=
  [⟨"aggregateId", .text k.aggregateId, some k.aggregateId⟩, ⟨"key", .ofOption .text k.key, k.key⟩]

theorem toJson_eq (k : AggregateKey) : k.toJson = .object (k.entries.map Entry.member) := rfl

theorem fits_entries (k : AggregateKey) : List.Forall₂ Fits
    [.required "aggregateId" fun cs => (string cs).map fun (s, rest) => (some s, rest),
      .nullable "key" (optional string) none] k.entries :=
  .cons (fits_required _ some (.text _) (by simp) (readsSpaced_string k.aggregateId))
    (.cons (fits_nullable _ id id k.key (readsSpaced_optional readsSpaced_string k.key)) .nil)

theorem survives (k : AggregateKey) : Survives parse k.toJson.render k := by
  have hbuild : ofMembers (k.entries.map Entry.value) = .ok k := rfl
  exact survives_record k.fits_entries (show ["aggregateId", "key"].Nodup by decide) hbuild _ _ _

end AggregateKey

namespace Duration

/-- What two parts are read as, by some way to put them together. Where the way is a variable, no sum of seconds as
nanoseconds is worked out to see which case applies. -/
def ofPartsBy (parts? : Nat → Nat → Option Duration) : List Nat → Except Mismatch Duration
  | [seconds, nanos] =>
    match parts? seconds nanos with
    | some d => .ok d
    | none => .error .durationOverflow
  | _ => .error .durationOverflow

theorem durationOf_eq : durationOf = ofPartsBy ofParts? := rfl

theorem ofPartsBy_eq_ok {parts? : Nat → Nat → Option Duration} {seconds nanos : Nat} {d : Duration}
    (h : parts? seconds nanos = some d) : ofPartsBy parts? [seconds, nanos] = .ok d := by
  simp only [ofPartsBy, h]

theorem ofParts?_parts (d : Duration) : ofParts? d.seconds d.subsecond = some d := by
  have hsum : d.seconds * 1_000_000_000 + d.subsecond = d.nanos := by
    unfold seconds subsecond
    omega
  rw [ofParts?, hsum]
  exact dif_pos d.nanos_lt

theorem durationOf_parts (d : Duration) : durationOf [d.seconds, d.subsecond] = .ok d :=
  -- `durationOf` is not opened here: with the sum of its parts in place, it would be counted out
  (congrFun durationOf_eq _).trans (ofPartsBy_eq_ok d.ofParts?_parts)

theorem own_toJson (d : Duration) : Own d.toJson := by
  refine .object _ ?_
  simp [Own.number]

theorem readsSpaced_toJson (d : Duration) : ReadsSpaced duration d.toJson d := by
  intro gap rest hgap _
  have hseconds : d.seconds < 0x1_0000_0000_0000_0000 := by
    have hlt := d.nanos_lt
    unfold seconds
    omega
  have hsubsecond : d.subsecond < 0x1_0000_0000 := by
    unfold subsecond
    omega
  have hms : List.Forall₂ (Slotted [.required "secs" (natural 0x1_0000_0000_0000_0000 "u64"),
      .required "nanos" (natural 0x1_0000_0000 "u32")])
      [("secs", .number d.seconds), ("nanos", .number d.subsecond)] [d.seconds, d.subsecond] :=
    .cons ⟨_, rfl, (readsSpaced_natural _ hseconds hseconds).reads⟩
      (.cons ⟨_, rfl, (readsSpaced_natural _ hsubsecond (Nat.lt_trans hsubsecond (by decide))).reads⟩ .nil)
  have hskip (cs : List Char) : duration (gap ++ cs) = duration cs := by
    rw [duration, record, record, skipSpace_blank hgap]
  rw [hskip]
  exact record_render _ _ _ hms (show ["secs", "nanos"].Nodup by decide) rfl d.durationOf_parts rest

end Duration

namespace RetryPolicy

def entries (p : RetryPolicy) : List (Entry Member) :=
  [⟨"max_attempts", .number p.maxAttempts.toNat, .attempts p.maxAttempts⟩,
    ⟨"base_backoff", p.baseBackoff.toJson, .backoff p.baseBackoff⟩,
    ⟨"max_backoff", p.maxBackoff.toJson, .backoff p.maxBackoff⟩]

theorem toJson_eq (p : RetryPolicy) : p.toJson = .object (p.entries.map Entry.member) := rfl

theorem fits_backoff (name : String) (d : Duration) :
    Fits (.required name fun cs => (duration cs).map fun (d, rest) => (Member.backoff d, rest))
      ⟨name, d.toJson, .backoff d⟩ :=
  fits_required name Member.backoff d.own_toJson (by simp [Duration.toJson]) d.readsSpaced_toJson

theorem fits_entries (p : RetryPolicy) : List.Forall₂ Fits
    [.required "max_attempts" fun cs => (word32 cs).map fun (n, rest) => (Member.attempts n, rest),
      .required "base_backoff" fun cs => (duration cs).map fun (d, rest) => (.backoff d, rest),
      .required "max_backoff" fun cs => (duration cs).map fun (d, rest) => (.backoff d, rest)] p.entries := by
  have hattempts :=
    fits_required "max_attempts" Member.attempts (.number _) (by simp) (readsSpaced_word32 p.maxAttempts)
  exact .cons hattempts (.cons (fits_backoff _ _) (.cons (fits_backoff _ _) .nil))

theorem survives (p : RetryPolicy) : Survives parse p.toJson.render p := by
  have hbuild : ofMembers (p.entries.map Entry.value) = .ok p := rfl
  have hnames : (p.entries.map Entry.name).Nodup :=
    show ["max_attempts", "base_backoff", "max_backoff"].Nodup by decide
  exact survives_record p.fits_entries hnames hbuild _ _ _

end RetryPolicy

namespace Row

def entries (r : Row) : List (Entry Member) :=
  [⟨"id", .text r.id.text, .id r.id⟩, ⟨"occurred_at", .text r.occurredAt.text, .time r.occurredAt⟩,
    ⟨"event_type", .text r.eventType, .text r.eventType⟩, ⟨"payload", .text r.payload, .text r.payload⟩,
    ⟨"correlation_id", .ofOption .text r.correlationId, .maybeText r.correlationId⟩,
    ⟨"aggregate_id", .ofOption .text r.aggregateId, .maybeText r.aggregateId⟩,
    ⟨"key", .ofOption .text r.key, .maybeText r.key⟩,
    ⟨"processed_at", .ofOption (.text ·.text) r.processedAt, .maybeTime r.processedAt⟩,
    ⟨"error", .ofOption .text r.error, .maybeText r.error⟩, ⟨"attempts", .number r.attempts.toNat, .word r.attempts⟩,
    ⟨"next_attempt_at", .ofOption (.text ·.text) r.nextAttemptAt, .maybeTime r.nextAttemptAt⟩,
    ⟨"locked_by", .ofOption .text r.lockedBy, .maybeText r.lockedBy⟩,
    ⟨"locked_until", .ofOption (.text ·.text) r.lockedUntil, .maybeTime r.lockedUntil⟩,
    ⟨"dead_lettered_at", .ofOption (.text ·.text) r.deadLetteredAt, .maybeTime r.deadLetteredAt⟩,
    ⟨"created_at", .text r.createdAt.text, .time r.createdAt⟩]

theorem toJson_eq (r : Row) : r.toJson = .object (r.entries.map Entry.member) := rfl

theorem fits_time (name : String) (t : Time) : Fits (timeField name) ⟨name, .text t.text, .time t⟩ :=
  fits_required name Member.time (.text _) (by simp) (readsSpaced_time t)

theorem fits_text (name s : String) : Fits (textField name) ⟨name, .text s, .text s⟩ :=
  fits_required name Member.text (.text _) (by simp) (readsSpaced_string s)

theorem fits_maybeTime (name : String) (t? : Option Time) :
    Fits (maybeTimeField name) ⟨name, .ofOption (.text ·.text) t?, .maybeTime t?⟩ :=
  fits_nullable name Time.text Member.maybeTime t? ((readsSpaced_optional readsSpaced_time t?).map Member.maybeTime)

theorem fits_maybeText (name : String) (s? : Option String) :
    Fits (maybeTextField name) ⟨name, .ofOption .text s?, .maybeText s?⟩ :=
  fits_nullable name (fun s => s) Member.maybeText s?
    ((readsSpaced_optional readsSpaced_string s?).map Member.maybeText)

theorem fits_entries (r : Row) : List.Forall₂ Fits fields r.entries := by
  have hid := fits_required "id" (fun u => Member.id ⟨u⟩) (.text _) (by simp) (readsSpaced_uuid r.id.uuid)
  have hattempts := fits_required "attempts" Member.word (.number _) (by simp) (readsSpaced_word32 r.attempts)
  exact .cons hid <| .cons (fits_time ..) <| .cons (fits_text ..) <| .cons (fits_text ..) <|
    .cons (fits_maybeText ..) <| .cons (fits_maybeText ..) <| .cons (fits_maybeText ..) <|
    .cons (fits_maybeTime ..) <| .cons (fits_maybeText ..) <| .cons hattempts <|
    .cons (fits_maybeTime ..) <| .cons (fits_maybeText ..) <| .cons (fits_maybeTime ..) <|
    .cons (fits_maybeTime ..) <| .cons (fits_time ..) .nil

theorem survives (r : Row) : Survives parse r.toJson.render r := by
  have hnames : (r.entries.map Entry.name).Nodup :=
    show ["id", "occurred_at", "event_type", "payload", "correlation_id", "aggregate_id", "key", "processed_at",
      "error", "attempts", "next_attempt_at", "locked_by", "locked_until", "dead_lettered_at",
      "created_at"].Nodup by decide
  have hbuild : ofMembers (r.entries.map Entry.value) = .ok r := rfl
  exact survives_record r.fits_entries hnames hbuild _ _ _

end Row

inductive Document
  | row (r : Row)
  | policy (p : RetryPolicy)
  | key (k : AggregateKey)

namespace Document

def text : Document → String
  | .row r => r.toJson.render
  | .policy p => p.toJson.render
  | .key k => k.toJson.render

def members : Document → List (String × String)
  | .row r => r.entries.map Entry.written
  | .policy p => p.entries.map Entry.written
  | .key k => k.entries.map Entry.written

theorem isObject_text (d : Document) : IsObject d.text d.members := by
  cases d with
  | row r =>
      rw [text, r.toJson_eq]
      exact isObject_members (isValue_of_fits r.fits_entries)
  | policy p =>
      rw [text, p.toJson_eq]
      exact isObject_members (isValue_of_fits p.fits_entries)
  | key k =>
      rw [text, k.toJson_eq]
      exact isObject_members (isValue_of_fits k.fits_entries)

def size : Document → Nat
  | .row _ => 15
  | .policy _ => 3
  | .key _ => 2

theorem length_members (d : Document) : d.members.length = d.size := by
  cases d <;> rfl

/-- Documents of different kinds have different numbers of members. -/
theorem text_injective : Function.Injective text := by
  intro d e h
  have hobject := d.isObject_text
  rw [h] at hobject
  have hsize : d.size = e.size := by
    rw [← length_members, ← length_members, hobject.unique e.isObject_text]
  cases d with
  | row r =>
      cases e with
      | row q => exact congrArg row (r.survives.eq_of_text q.survives h)
      | policy | key => cases hsize
  | policy p =>
      cases e with
      | policy q => exact congrArg policy (p.survives.eq_of_text q.survives h)
      | row | key => cases hsize
  | key k =>
      cases e with
      | key l => exact congrArg key (k.survives.eq_of_text l.survives h)
      | row | policy => cases hsize

end Document

/-- Whatever is in a row, in a retry policy or in the key of an aggregate, its text is read back as the same, and so it
is if members of the text that are null are left out. No other has that text. -/
theorem documents_survive :
    (∀ r : Row, Survives Row.parse r.toJson.render r) ∧
      (∀ p : RetryPolicy, Survives RetryPolicy.parse p.toJson.render p) ∧
      (∀ k : AggregateKey, Survives AggregateKey.parse k.toJson.render k) ∧
      ∀ d e : Document, d.text = e.text → d = e :=
  ⟨Row.survives, RetryPolicy.survives, AggregateKey.survives, fun _ _ h => Document.text_injective h⟩

/-- A row of the first and the last moment, of half a leap second, and of texts that could be taken for something
else. -/
def motley : Row where
  id := ⟨.ofNat 42⟩
  occurredAt := .earliest
  eventType := "a\"b"
  payload := "\\\x00\n"
  correlationId := none
  aggregateId := some "null"
  key := some ""
  processedAt := some ⟨1483228799, 1_500_000_000, by decide, by decide, by decide, by decide⟩
  error := none
  attempts := 0xFFFF_FFFF
  nextAttemptAt := some .latest
  lockedBy := none
  lockedUntil := none
  deadLetteredAt := none
  createdAt := .epoch

def motleySpare : String :=
  "\x7b\"id\":\"00000000-0000-0000-0000-00000000002a\",\"occurred_at\":\"-262143-01-01T00:00:00Z\"," ++
  "\"event_type\":\"a\\\"b\",\"payload\":\"\\\\\\u0000\\n\",\"aggregate_id\":\"null\",\"key\":\"\"," ++
  "\"processed_at\":\"2016-12-31T23:59:60.500Z\",\"attempts\":4294967295," ++
  "\"next_attempt_at\":\"+262142-12-31T23:59:59.999999999Z\",\"created_at\":\"1970-01-01T00:00:00Z\"\x7d"

theorem documents_survive_motley :
    Row.parse motley.toJson.render = .ok motley ∧ Row.parse motleySpare = .ok motley ∧
      (Document.row motley).text ≠ (Document.row { motley with key := none }).text := by
  obtain ⟨hread, ms, hms, hspare⟩ := documents_survive.1 motley
  have hvalues := isValue_of_fits motley.fits_entries
  rw [motley.toJson_eq] at hms
  obtain rfl := hms.unique (isObject_members hvalues)
  have hkey : (Document.row motley).text ≠ (Document.row { motley with key := none }).text := fun h =>
    absurd (congrArg Row.key (Document.row.inj (documents_survive.2.2.2 _ _ h))) (by decide)
  refine ⟨hread, hspare _ _ (omitsNulls_filter _) ?_, hkey⟩
  have htext : motleySpare =
      (Json.object ((motley.entries.filter (·.json.render ≠ "null")).map Entry.member)).render := by
    decide +kernel
  rw [htext, List.filter_map]
  exact isObject_members fun e he => hvalues e (List.mem_of_mem_filter he)

end Outbox
