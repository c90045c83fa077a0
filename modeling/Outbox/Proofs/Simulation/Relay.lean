import Outbox.Proofs.Account.Effect
import Outbox.Proofs.Account.Journal
import Outbox.Proofs.Simulation.Delivery
import Outbox.Proofs.Worker.Precedence

namespace Outbox

theorem IdSource.values_takeMany {ids : IdSource} {first : UInt64} (hid : ids.id = (sequential first).id) {n : Nat}
    (hfit : first.toNat + ids.taken + n ≤ UInt64.size) :
    (ids.takeMany n).map Uuid.value = List.range' (first.toNat + ids.taken) n := by
  rw [takeMany, List.map_map, List.range'_eq_map_range]
  refine List.map_congr_left fun k hk => ?_
  have hk := List.mem_range.1 hk
  have hword := first.toNat_lt
  simp only [Function.comp_apply, hid, sequential, Uuid.ofWord, UInt64.toNat_add, UInt64.toNat_ofNat']
  unfold UInt64.size at hfit
  omega

namespace Row

def Before (r q : Row) : Prop := r.occurredAt ≤ q.occurredAt ∧ r.id < q.id

variable {r q : Row}

theorem Before.precedes (h : r.Before q) : r.precedes q = true := by
  obtain ⟨htime, hid⟩ := h
  have htime : r.occurredAt.rank ≤ q.occurredAt.rank := htime
  have hid : r.id.uuid.value < q.id.uuid.value := hid
  rw [Row.precedes, earlier_iff]
  omega

theorem Before.ne (h : r.Before q) : r.id ≠ q.id := by
  intro he
  have hid := h.2
  rw [he] at hid
  exact Nat.lt_irrefl _ hid

def Told (topics : List String) (r : Row) (m : Message) : Prop := ∃ topic ∈ topics, r.message? topic = .ok m

end Row

theorem nodup_of_before {rows : List Row} (h : rows.Pairwise Row.Before) : (rows.map (·.id)).Nodup :=
  List.pairwise_map.2 (h.imp Row.Before.ne)

namespace Store

variable {s s' : Store} {rows : List Row}

theorem claimable_at (hlive : ∀ r ∈ s.rows.entries, r.isTerminal = false → r.IsStaged) (now now' : Time) :
    s.claimable now = s.claimable now' := by
  unfold claimable
  congr 1
  refine List.filter_congr fun r hr => ?_
  cases hend : r.isTerminal with
  | true => simp [Row.isClaimable, hend]
  | false => rw [(hlive r hr hend).isClaimable, (hlive r hr hend).isClaimable]

theorem claimable_add (h : s.add rows = .ok s') (hstaged : ∀ r ∈ rows, r.IsStaged) (now : Time)
    (hbefore : (s.claimable now ++ rows).Pairwise Row.Before) : s'.claimable now = s.claimable now ++ rows := by
  refine claimable_eq (nodup_of_before hbefore) (hbefore.imp Row.Before.precedes) fun r => ?_
  rw [List.mem_append, mem_claimable, mem_claimable, ← mem_iff_get?, ← mem_iff_get?, mem_of_add h, or_and_right,
    or_comm]
  exact or_congr_right (and_iff_left_of_imp fun hr => (hstaged r hr).isClaimable now)

end Store

namespace Simulation

open Worker

/-- What goes on around a service: time passes, something is asked of it, or its rows are relayed. -/
inductive Errand
  | wait (t : Time)
  | request (correlationId : Option String) (r : AccountRequest)
  | work (s : Settings)

namespace Errand

def command : Errand → Command
  | .wait t => .act (.setClock t)
  | .request correlationId r => .request 0 correlationId r
  | .work s => .runOnce s

def clock (now : Time) : Errand → Time
  | .wait t => t
  | _ => now

def Forward : Time → List Errand → Prop
  | _, [] => True
  | now, e :: es => now ≤ e.clock now ∧ Forward (e.clock now) es

def topic? : Errand → Option String
  | .work s => some s.topic
  | _ => none

def topics (es : List Errand) : List String := es.filterMap topic?

theorem mem_topics_cons {e : Errand} {es : List Errand} {topic : String} (h : topic ∈ topics es) :
    topic ∈ topics (e :: es) := by
  obtain ⟨e', he', htopic⟩ := List.mem_filterMap.1 h
  exact List.mem_filterMap.2 ⟨e', List.mem_cons_of_mem _ he', htopic⟩

end Errand

namespace World

variable (listening : Bool) (w : World)

def ids : IdSource := w.services.getD 0 (.sequential 1)

def office : Office Unit := ⟨w.accounts, w.store, fun _ => w.ids⟩

def committed : Errand → List Row
  | .request correlationId r => w.office.committed ⟨(), .byId, w.now, correlationId, r⟩
  | _ => []

def does (e : Errand) : World := (Command.run listening { w with log := [] } e.command).2

def after (es : List Errand) : World := (Command.runAll listening (es.map Errand.command) w).2

def journal (w : World) : List Errand → List Row
  | [] => []
  | e :: es => w.committed e ++ (w.does listening e).journal es

theorem after_cons (e : Errand) (es : List Errand) :
    w.after listening (e :: es) = (w.does listening e).after listening es := rfl

def serving (o : Office Unit) (log : List LogEvent) : World :=
  { w with accounts := o.accounts, store := o.store, services := [o.ids ()], log }

theorem does_request (h : w.services = [w.ids]) (correlationId : Option String) (r : AccountRequest) :
    ∃ log, w.does listening (.request correlationId r) =
      w.serving (w.office.serve ⟨(), .byId, w.now, correlationId, r⟩) log := by
  have hset (o : Office Unit) : [o.ids ()] = w.services.set 0 (o.ids ()) := by rw [h, List.set_cons_zero]
  unfold serving
  rw [hset]
  cases listening with
  | true => exact ⟨_, rfl⟩
  | false => exact ⟨_, rfl⟩

/-- The rows that were sent are the first of those committed, and those that can be claimed are the others. -/
structure InLine (w : World) (first : UInt64) (sent rows : List Row) : Prop where
  split : sent ++ w.store.claimable w.now = rows
  before : rows.Pairwise Row.Before
  past : ∀ r ∈ rows, r.occurredAt ≤ w.now ∧ r.id.uuid.value < first.toNat + w.ids.taken

/-- What holds of a world between two errands. The order is lost once the ids start over. -/
structure Relays (topics : List String) (first : UInt64) (w : World) (sent rows : List Row) : Prop where
  willing : w.IsWilling
  services : w.services = [w.ids]
  source : w.ids.id = (IdSource.sequential first).id
  live : ∀ r ∈ w.store.rows.entries, r.isTerminal = false → r.IsStaged ∧ Json.trimmed r.payload = .ok r.payload
  told : List.Forall₂ (Row.Told topics) sent w.publisher.accepted
  inLine : first.toNat + w.ids.taken ≤ UInt64.size → w.InLine first sent rows

variable {w} {topics : List String} {first : UInt64} {sent rows : List Row} {t : Time} {ids : IdSource}

theorem InLine.later {w' : World} (h : w.InLine first sent rows)
    (hclaimable : w'.store.claimable w'.now = w.store.claimable w.now) (hnow : w.now ≤ w'.now)
    (htaken : w.ids.taken ≤ w'.ids.taken) : w'.InLine first sent rows where
  split := by rw [hclaimable, h.split]
  before := h.before
  past r hr := ⟨Int.le_trans (h.past r hr).1 hnow, Nat.lt_of_lt_of_le (h.past r hr).2 (Nat.add_le_add_left htaken _)⟩

theorem Relays.wait (h : w.Relays topics first sent rows) (ht : w.now ≤ t) :
    (w.does listening (.wait t)).Relays topics first sent rows where
  willing := h.willing.congr rfl rfl
  services := h.services
  source := h.source
  live := h.live
  told := h.told
  inLine hfit :=
    (h.inLine hfit).later (w.store.claimable_at (fun r hr hlive => (h.live r hr hlive).1) t w.now) ht (Nat.le_refl _)

theorem InLine.commit {w' : World} {news : List Row} {taken : Nat} (h : w.InLine first sent rows)
    (hadd : w.store.add news = .ok w'.store) (hstaged : ∀ r ∈ news, r.IsStaged) (hnow : w'.now = w.now)
    (hdated : ∀ r ∈ news, r.occurredAt = w.now)
    (hids : news.map (·.id.uuid.value) = List.range' (first.toNat + taken) news.length)
    (htaken : w.ids.taken ≤ taken) (hleft : w'.ids.taken = taken + news.length) :
    w'.InLine first sent (rows ++ news) := by
  -- the ids go up within the new rows, and lie above all that were given out before
  have hbounds : ∀ r ∈ news, first.toNat + taken ≤ r.id.uuid.value ∧
      r.id.uuid.value < first.toNat + taken + news.length := by
    intro r hr
    have hmem := List.mem_map_of_mem (f := (·.id.uuid.value)) hr
    rw [hids] at hmem
    exact List.mem_range'_1.1 hmem
  have hnews : news.Pairwise Row.Before := by
    have hlt : (news.map (·.id.uuid.value)).Pairwise (· < ·) := hids ▸ List.pairwise_lt_range'
    refine (List.pairwise_map.1 hlt).imp_of_mem fun hr hq hid => ⟨?_, hid⟩
    rw [hdated _ hr, hdated _ hq]
    exact Time.le_refl _
  have hbefore : (rows ++ news).Pairwise Row.Before := by
    refine List.pairwise_append.2 ⟨h.before, hnews, fun r hr q hq => ?_⟩
    obtain ⟨htime, hid⟩ := h.past r hr
    refine ⟨hdated q hq ▸ htime, Nat.lt_of_lt_of_le hid ?_⟩
    have hq := (hbounds q hq).1
    omega
  refine ⟨?_, hbefore, fun r hr => ?_⟩
  · rw [← h.split, List.append_assoc] at hbefore
    rw [hnow, Store.claimable_add hadd hstaged w.now (List.pairwise_append.1 hbefore).2.1, ← List.append_assoc, h.split]
  · rw [hnow, hleft]
    rcases List.mem_append.1 hr with hr | hr
    · obtain ⟨htime, hid⟩ := h.past r hr
      exact ⟨htime, by omega⟩
    · have hid := (hbounds r hr).2
      exact ⟨hdated r hr ▸ Time.le_refl _, by omega⟩

theorem Relays.refuse (h : w.Relays topics first sent rows) {accounts : AccountStore} {log : List LogEvent}
    (hid : ids.id = w.ids.id) (htaken : w.ids.taken ≤ ids.taken) :
    (w.serving ⟨accounts, w.store, fun _ => ids⟩ log).Relays topics first sent rows where
  willing := h.willing.congr rfl rfl
  services := rfl
  source := hid.trans h.source
  live := h.live
  told := h.told
  inLine hfit := (h.inLine (Nat.le_trans (Nat.add_le_add_left htaken _) hfit)).later rfl (Time.le_refl _) htaken

theorem Relays.grant (h : w.Relays topics first sent rows) {accounts : AccountStore} {store : Store}
    {log : List LogEvent} {id : AccountId} {correlationId : Option String} {es : List AccountEvent}
    (hid : ids.id = w.ids.id) (htaken : w.ids.taken ≤ ids.taken) (habout : ∀ e ∈ es, e.account = id)
    (hadd : w.store.add (AccountEvent.rowsOf correlationId w.now es ids) = .ok store) :
    (w.serving ⟨accounts, store, fun _ => ⟨ids.id, ids.taken + es.length⟩⟩ log).Relays topics first sent
      (rows ++ AccountEvent.rowsOf correlationId w.now es ids) where
  willing := h.willing.congr rfl rfl
  services := rfl
  source := hid.trans h.source
  live r hr hlive := by
    rcases (Store.mem_of_add hadd).1 hr with hr | hr
    · exact ⟨(AccountEvent.tellsOf_rowsOf habout r hr).fresh, AccountEvent.trimmed_rowsOf r hr⟩
    · exact h.live r hr hlive
  told := h.told
  inLine hfit := by
    have htells : ∀ r ∈ AccountEvent.rowsOf correlationId w.now es ids, r.TellsOf id correlationId w.now :=
      AccountEvent.tellsOf_rowsOf habout
    have hids : (AccountEvent.rowsOf correlationId w.now es ids).map (·.id.uuid) = ids.takeMany es.length :=
      AccountEvent.ids_rowsOf
    have hlength : (AccountEvent.rowsOf correlationId w.now es ids).length = es.length := AccountEvent.length_rowsOf
    have hfit : first.toNat + (ids.taken + es.length) ≤ UInt64.size := hfit
    have hvalues := IdSource.values_takeMany (hid.trans h.source) (n := es.length) (by omega)
    rw [← hids, List.map_map, ← hlength] at hvalues
    refine (h.inLine (by omega)).commit hadd (fun r hr => (htells r hr).fresh) rfl
      (fun r hr => (htells r hr).occurredAt) hvalues htaken ?_
    rw [hlength]
    rfl

theorem Relays.request (h : w.Relays topics first sent rows) (correlationId : Option String) (r : AccountRequest) :
    (w.does listening (.request correlationId r)).Relays topics first sent
      (rows ++ w.committed (.request correlationId r)) := by
  obtain ⟨log, hdoes⟩ := w.does_request listening h.services correlationId r
  rw [hdoes, committed]
  rcases w.office.serve_cases ⟨(), .byId, w.now, correlationId, r⟩ with
    ⟨left, hnone, hserve, hid, htaken⟩ | ⟨b, es, rest, store, hgrant, hrows, hadd, hserve⟩
  · rw [hnone, hserve, List.append_nil]
    exact h.refuse hid htaken
  · obtain ⟨hid, htaken⟩ := hgrant.later
    rw [hrows] at hadd ⊢
    rw [hserve, (AccountEvent.recordAll_ids w.now es rest).2]
    exact h.grant hid htaken hgrant.outcome.about hadd

theorem Relays.iteration (h : w.Relays topics first sent rows) {s : Settings} {expiry : Time}
    (hexpiry : leaseExpiry w.now s.lease = .ok expiry) (htopic : s.topic ∈ topics) :
    ∃ report w', (runOnce s (backend listening)).run w = (.ok report, w') ∧
      report.claimed = min s.batchSize (w.store.claimable w.now).length ∧ w'.now = w.now ∧ w'.ids = w.ids ∧
      w'.store.claimable w'.now = (w.store.claimable w.now).drop s.batchSize ∧
      w'.Relays topics first (sent ++ (w.store.claimable w.now).take s.batchSize) rows := by
  have hmessage : ∀ r ∈ w.store.claimable w.now, ∃ m, r.message? s.topic = .ok m := by
    intro r hr
    obtain ⟨hr, hclaim⟩ := Store.mem_claimable.1 hr
    have hlive := h.live r (Store.mem_of_get? hr) (Row.not_terminal_of_claimable hclaim)
    exact Solo.message_of_payload s.topic hlive.2
  obtain ⟨report, w', ms, hrun, hclaimed, hms, hsends, hstore⟩ :=
    runOnce_willing s listening h.willing hexpiry hmessage
  have hids : w'.ids = w.ids := by rw [ids, hsends.services, ids]
  have hleft : w'.store.claimable w'.now = (w.store.claimable w.now).drop s.batchSize := by
    rw [hsends.now, hstore, Store.claimable_relayed]
  refine ⟨report, w', hrun, hclaimed, hsends.now, hids, hleft, ?_⟩
  exact {
    willing := hsends.willing
    services := by rw [hsends.services, hids, h.services]
    source := by rw [hids, h.source]
    live := by
      intro r hr hlive
      have hr := Store.get?_of_mem hr
      rw [hstore, Store.get?_relayed, Option.or_eq_some_iff, Option.map_eq_some_iff] at hr
      -- a row of the batch has ended, so one that is live is as it was
      rcases hr with ⟨q, -, rfl⟩ | ⟨-, hr⟩
      · cases hlive
      · exact h.live r (Store.mem_of_get? hr) hlive
    told := by
      rw [hsends.accepted]
      exact List.rel_append h.told (hms.imp fun _ _ hm => ⟨s.topic, htopic, hm⟩)
    inLine := by
      intro hfit
      rw [hids] at hfit
      obtain ⟨hsplit, hbefore, hpast⟩ := h.inLine hfit
      refine ⟨?_, hbefore, ?_⟩
      · rw [hleft, List.append_assoc, List.take_append_drop, hsplit]
      · rw [hsends.now, hids]
        exact hpast }

theorem Relays.work (h : w.Relays topics first sent rows) {s : Settings} {expiry : Time}
    (hexpiry : leaseExpiry w.now s.lease = .ok expiry) (htopic : s.topic ∈ topics) :
    (w.does listening (.work s)).now = w.now ∧ (w.does listening (.work s)).ids = w.ids ∧
      (w.does listening (.work s)).store.claimable w.now = (w.store.claimable w.now).drop s.batchSize ∧
      (w.does listening (.work s)).Relays topics first (sent ++ (w.store.claimable w.now).take s.batchSize) rows := by
  have hstart : Relays topics first { w with log := [] } sent rows := h.wait listening (Time.le_refl w.now)
  obtain ⟨report, w', hrun, -, hnow, hids, hleft, hrelays⟩ := hstart.iteration listening hexpiry htopic
  have hdoes : w.does listening (.work s) = w' := congrArg Prod.snd hrun
  rw [hnow] at hleft
  rw [hdoes]
  exact ⟨hnow, hids, hleft, hrelays⟩

theorem Relays.refused (h : w.Relays topics first sent rows) {s : Settings} {e : StoreError}
    (hexpiry : leaseExpiry w.now s.lease = .error e) :
    (w.does listening (.work s)).now = w.now ∧ (w.does listening (.work s)).Relays topics first sent rows := by
  have hstart : Relays topics first { w with log := [] } sent rows := h.wait listening (Time.le_refl w.now)
  have hdoes : w.does listening (.work s) = { w with log := [] } :=
    congrArg Prod.snd (runOnce_invalid s listening (w := { w with log := [] }) hexpiry)
  rw [hdoes]
  exact ⟨rfl, hstart⟩

theorem Relays.does (h : w.Relays topics first sent rows) {e : Errand} (hclock : w.now ≤ e.clock w.now)
    (htopic : ∀ s, e = .work s → s.topic ∈ topics) :
    (w.does listening e).now = e.clock w.now ∧
      ∃ sent', (w.does listening e).Relays topics first sent' (rows ++ w.committed e) := by
  cases e with
  | wait t =>
      rw [show w.committed (.wait t) = [] from rfl, List.append_nil]
      exact ⟨rfl, sent, h.wait listening hclock⟩
  | request correlationId r =>
      obtain ⟨log, hdoes⟩ := w.does_request listening h.services correlationId r
      exact ⟨by rw [hdoes]; rfl, sent, h.request listening correlationId r⟩
  | work s =>
      rw [show w.committed (.work s) = [] from rfl, List.append_nil]
      cases hexpiry : leaseExpiry w.now s.lease with
      | error e =>
          obtain ⟨hnow, hrelays⟩ := h.refused listening hexpiry
          exact ⟨hnow, sent, hrelays⟩
      | ok expiry =>
          obtain ⟨hnow, -, -, hrelays⟩ := h.work listening hexpiry (htopic s rfl)
          exact ⟨hnow, _, hrelays⟩

theorem Relays.after {es : List Errand} (h : w.Relays topics first sent rows) (hforward : Errand.Forward w.now es)
    (htopics : Errand.topics es ⊆ topics) :
    ∃ sent', (w.after listening es).Relays topics first sent' (rows ++ w.journal listening es) := by
  induction es generalizing w sent rows with
  | nil => exact ⟨sent, by rw [journal, List.append_nil]; exact h⟩
  | cons e es ih =>
      obtain ⟨hclock, hforward⟩ := hforward
      have hfirst : ∀ s, e = .work s → s.topic ∈ topics := by
        rintro s rfl
        exact htopics (List.mem_cons_self ..)
      have hrest : Errand.topics es ⊆ topics := fun topic hmem => htopics (Errand.mem_topics_cons hmem)
      obtain ⟨hnow, sent', hdoes⟩ := h.does listening hclock hfirst
      rw [after_cons, journal, ← List.append_assoc]
      exact ih hdoes (hnow.symm ▸ hforward) hrest

theorem relays_start (topics : List String) (first : UInt64) (now : Time) :
    (World.start now [.sequential first]).Relays topics first [] [] where
  willing := ⟨rfl, rfl, rfl⟩
  services := rfl
  source := rfl
  live := by
    intro r hr
    cases hr
  told := .nil
  inLine _ := ⟨List.mergeSort_nil, .nil, by simp⟩

theorem Relays.idle (h : w.Relays topics first sent rows) (hfit : first.toNat + w.ids.taken ≤ UInt64.size)
    {s : Settings} {report : Report} {w' : World} (hbatch : 1 ≤ s.batchSize)
    (htopic : s.topic ∈ topics)
    (hrun : (runOnce s (backend listening)).run w = (.ok report, w')) (hidle : report.claimed = 0) :
    List.Forall₂ (Row.Told topics) rows w'.publisher.accepted := by
  cases hexpiry : leaseExpiry w.now s.lease with
  | error e => cases hrun.symm.trans (runOnce_invalid s listening hexpiry)
  | ok expiry =>
      obtain ⟨_, _, hiteration, hclaimed, -, -, -, hrelays⟩ := h.iteration listening hexpiry htopic
      cases hrun.symm.trans hiteration
      have hnone : w.store.claimable w.now = [] := by
        rw [← List.length_eq_zero_iff]
        omega
      have hsplit := (h.inLine hfit).split
      rw [hnone, List.append_nil] at hsplit
      have hsent := hrelays.told
      rw [hnone, List.take_nil, List.append_nil, hsplit] at hsent
      exact hsent

theorem Relays.drains (h : w.Relays topics first sent rows) (hfit : first.toNat + w.ids.taken ≤ UInt64.size)
    {s : Settings} {expiry : Time} (hbatch : 1 ≤ s.batchSize) (htopic : s.topic ∈ topics)
    (hexpiry : leaseExpiry w.now s.lease = .ok expiry) :
    ∃ n report w', n ≤ (w.store.claimable w.now).length ∧
      (runOnce s (backend listening)).run (w.after listening (.replicate n (.work s))) = (.ok report, w') ∧
      report.claimed = 0 ∧ List.Forall₂ (Row.Told topics) rows w'.publisher.accepted := by
  -- on the number of rows that wait, of which an iteration takes one at least
  induction hlength : (w.store.claimable w.now).length using Nat.strongRecOn generalizing w sent with
  | ind k ih =>
      rcases Nat.eq_zero_or_pos k with rfl | hpos
      · obtain ⟨report, w', hrun, hclaimed, -⟩ := h.iteration listening hexpiry htopic
        have hidle : report.claimed = 0 := by omega
        exact ⟨0, report, w', Nat.le_refl _, hrun, hidle, h.idle listening hfit hbatch htopic hrun hidle⟩
      · obtain ⟨hnow, hids, hleft, hrelays⟩ := h.work listening hexpiry htopic
        have hless := congrArg List.length hleft
        rw [List.length_drop, hlength, ← hnow] at hless
        obtain ⟨n, report, w', hn, hrest⟩ := ih _ (by omega) hrelays (hids ▸ hfit) (hnow ▸ hexpiry) hless
        exact ⟨n + 1, report, w', by omega, hrest⟩

/-- The rows committed are published in their order, each once: the first of them by the end of the errands, and all
by the time that a worker finds nothing to claim, which one with a valid lease comes to. -/
structure Publishes (w : World) (es : List Errand) : Prop where
  distinct : ((w.journal listening es).map (·.id)).Nodup
  sent : ∃ sent waiting, w.journal listening es = sent ++ waiting ∧
    List.Forall₂ (Row.Told (Errand.topics es)) sent (w.after listening es).publisher.accepted
  idle : ∀ s report w', 1 ≤ s.batchSize →
    (runOnce s (backend listening)).run (w.after listening es) = (.ok report, w') → report.claimed = 0 →
      List.Forall₂ (Row.Told (s.topic :: Errand.topics es)) (w.journal listening es) w'.publisher.accepted
  drains : ∀ s expiry, 1 ≤ s.batchSize → leaseExpiry (w.after listening es).now s.lease = .ok expiry →
    ∃ n report w', n ≤ (w.journal listening es).length ∧
      (runOnce s (backend listening)).run ((w.after listening es).after listening (.replicate n (.work s))) =
        (.ok report, w') ∧ report.claimed = 0 ∧
      List.Forall₂ (Row.Told (s.topic :: Errand.topics es)) (w.journal listening es) w'.publisher.accepted

theorem relays_publish {now : Time} {es : List Errand} (hforward : Errand.Forward now es)
    (hfit : first.toNat + ((World.start now [.sequential first]).after listening es).ids.taken ≤ UInt64.size) :
    (World.start now [.sequential first]).Publishes listening es := by
  have hrelays {topics : List String} (htopics : Errand.topics es ⊆ topics) :=
    (relays_start topics first now).after listening hforward htopics
  obtain ⟨sent, h⟩ := hrelays (List.Subset.refl _)
  have hinLine := h.inLine hfit
  refine ⟨nodup_of_before hinLine.before, ⟨sent, _, hinLine.split.symm, h.told⟩, ?_, ?_⟩
  -- the worker that comes last may have a topic of its own
  · intro s report w' hbatch hrun hidle
    obtain ⟨sent', h'⟩ := hrelays (List.subset_cons_self s.topic _)
    exact h'.idle listening hfit hbatch (List.mem_cons_self ..) hrun hidle
  · intro s expiry hbatch hexpiry
    obtain ⟨sent', h'⟩ := hrelays (List.subset_cons_self s.topic _)
    obtain ⟨n, report, w', hn, hrest⟩ := h'.drains listening hfit hbatch (List.mem_cons_self ..) hexpiry
    refine ⟨n, report, w', Nat.le_trans hn ?_, hrest⟩
    rw [← List.nil_append (journal ..), ← hinLine.split, List.length_append]
    exact Nat.le_add_left ..

end World

end Simulation

open Simulation Fleet

/-- A lone worker delivers the oldest row first, and one that is never refused delivers in the order of the commits. -/
theorem delivery_in_order :
    (∀ trace F, Run trace F → .crashed () ∉ trace → OldestFirst trace) ∧
    ∀ listening now first es, Errand.Forward now es →
      first.toNat + ((World.start now [.sequential first]).after listening es).ids.taken ≤ UInt64.size →
      (World.start now [.sequential first]).Publishes listening es :=
  ⟨fun _ _ => oldest_first, fun listening _ _ _ => World.relays_publish listening⟩

def openAndRename : List Errand :=
  [.request none (.create "Ana" "11144477735"), .wait (Time.epoch.later 5),
    .request none (.changeName ⟨.ofWord 1⟩ "Bea")]

/-- A younger row overtakes one that has failed, and the three events of an account go out in their order. -/
theorem delivery_in_order_renamed :
    let w := World.start .epoch [.sequential 1]
    (∃ F, Run deferring F) ∧ .crashed () ∉ deferring ∧ .failed () (Row.sample 7).id ∈ deferring.take 14 ∧
      Errand.Forward .epoch openAndRename ∧
      (1 : UInt64).toNat + (w.after true openAndRename).ids.taken ≤ UInt64.size ∧
      (w.journal true openAndRename).map (·.eventType) =
        ["accounts.account.created", "accounts.account.name_changed", "accounts.account.updated"] ∧
      ∃ n report w', n ≤ 3 ∧ (Worker.runOnce quick (World.backend true)).run
          ((w.after true openAndRename).after true (.replicate n (.work quick))) = (.ok report, w') ∧
        report.claimed = 0 ∧
        List.Forall₂ (Row.Told [quick.topic]) (w.journal true openAndRename) w'.publisher.accepted := by
  intro w
  obtain ⟨F, h⟩ := deferring_run
  have hcrash : .crashed () ∉ deferring := by simp [deferring]
  have hforward : Errand.Forward .epoch openAndRename := by
    refine ⟨Time.le_refl _, ?_, Time.le_refl _, trivial⟩
    decide +kernel
  have hfit : (1 : UInt64).toNat + (w.after true openAndRename).ids.taken ≤
      UInt64.size := by
    decide +kernel
  have htypes : (w.journal true openAndRename).map (·.eventType) =
      ["accounts.account.created", "accounts.account.name_changed", "accounts.account.updated"] := by
    decide +kernel
  have hlength : (w.journal true openAndRename).length = 3 := by
    rw [← List.length_map, htypes]
    rfl
  obtain ⟨n, report, w', hn, hrest⟩ :=
    (delivery_in_order.2 true .epoch 1 openAndRename hforward hfit).drains quick _ (by decide) rfl
  refine ⟨⟨F, h⟩, hcrash, ?_, hforward, hfit, htypes, n, report, w', hlength ▸ hn, hrest⟩
  refine delivery_in_order.1 deferring F h hcrash (deferring.take 12) .epoch [youngerLease] [.busy ()] youngerMessage []
    rfl (by simp) (Row.sample 7) ?_ (Row.sample 8) ?_ ⟨Row.sample 8, rfl, rfl⟩ (by decide) (by decide) ?_
  · simp [deferring, added, FleetEvent.rowsAdded]
  · simp [deferring, added, FleetEvent.rowsAdded]
  · simp [deferring, Unsent, accepted, FleetEvent.messages]

end Outbox
