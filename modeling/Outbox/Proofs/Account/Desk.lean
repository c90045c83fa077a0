import Mathlib.Logic.Function.Basic
import Outbox.Proofs.Account.Journal

namespace Outbox

open AccountService AccountEvent

inductive Transition
  | rename (name : AccountName)
  | renumber (cpf : Cpf)
  | activate
  | deactivate
  | delete
  | restore

def Transition.change : Transition → Change
  | .rename name => changingName name
  | .renumber cpf => changingCpf cpf
  | .activate => activating
  | .deactivate => deactivating
  | .delete => deleting
  | .restore => restoring

theorem Transition.isTold (t : Transition) : t.change.IsTold := by
  cases t with
  | rename name => exact changingName_isTold name
  | renumber cpf => exact changingCpf_isTold cpf
  | activate => exact activating_isTold
  | deactivate => exact deactivating_isTold
  | delete => exact deleting_isTold
  | restore => exact restoring_isTold

theorem AccountStore.get?_putAll (s t : AccountStore) (id : AccountId) :
    (s.putAll t.accounts.entries).get? id = (t.get? id).or (s.get? id) :=
  Table.get?_insertAll t.accounts.nodup_keys ..

theorem AccountId.events_rowsOf {id about : AccountId} {es : List AccountEvent} (correlationId : Option String)
    (now : Time) (ids : IdSource) (h : ∀ e ∈ es, e.account = about) :
    id.events (rowsOf correlationId now es ids) = if about = id then es else [] := by
  have hrecords := recordAll_records now es ids
  by_cases hid : about = id
  · subst hid
    rw [if_pos rfl]
    exact (records_own correlationId hrecords h).1
  · rw [if_neg hid, events, rowsOf, records_other correlationId hrecords h hid]
    rfl

namespace UnitOfWork

theorem apply_ok {u : UnitOfWork} {accounts accounts' : AccountStore} {store store' : Store}
    (h : u.apply accounts store = .ok (accounts', store')) :
    accounts' = accounts.putAll u.saved.accounts.entries ∧ store.add u.staged = .ok store' := by
  unfold apply at h
  cases hs : store.add u.staged with
  | error e => rw [hs] at h; cases h
  | ok s => rw [hs] at h; cases h; exact ⟨rfl, rfl⟩

inductive Step
  | load (id : AccountId)
  | revise (id : AccountId) (t : Transition) (now : Time) (correlationId : Option String) (ids : IdSource)
  | save (id : AccountId)
  | stage
  | commit

def Step.isCommit : Step → Bool
  | .commit => true
  | _ => false

end UnitOfWork

/-- A unit of work with what its party has at hand: the accounts as they were loaded, its versions of those that it
has revised, and the rows that it has yet to stage. -/
structure Desk where
  unit : UnitOfWork
  loaded : AccountId → Option Account
  revised : AccountStore
  rows : List Row

namespace Desk

open UnitOfWork

def empty : Desk := ⟨.start, fun _ => none, .empty, []⟩

def copy (d : Desk) (id : AccountId) : Option Account := (d.revised.get? id).or (d.loaded id)

def hold (d : Desk) (id : AccountId) (a? : Option Account) : Desk :=
  { d with loaded := Function.update d.loaded id a? }

def rework (d : Desk) (b : Account) (rows : List Row) : Desk :=
  { d with revised := d.revised.put b, rows := d.rows ++ rows }

/-- What is at hand after a step, unless that asks for a transition which is refused. An account that the party has
revised is not loaded again. -/
def step (accounts : AccountStore) (d : Desk) : Step → Option Desk
  | .load id =>
    if (d.revised.get? id).isSome then some d
    else some (d.hold id (d.unit.load accounts id))
  | .revise id t now correlationId ids =>
    match d.copy id with
    | none => none
    | some a =>
      match t.change a now with
      | .error _ => none
      | .ok (b, es) => some (d.rework b (rowsOf correlationId now es ids))
  | .save id =>
    match d.revised.get? id with
    | none => some d
    | some a => some { d with unit := d.unit.save a }
  | .stage => some { d with unit := d.unit.stage d.rows, rows := [] }
  | .commit => some d

def steps (accounts : AccountStore) (d : Desk) (ps : List Step) : Option Desk := ps.foldlM (step accounts) d

/-- The accounts that the party has revised are as they were when it loaded them. -/
def IsFresh (d : Desk) (accounts : AccountStore) : Prop :=
  ∀ b ∈ d.revised.accounts.entries, d.loaded b.id = accounts.get? b.id

instance (d : Desk) (accounts : AccountStore) : Decidable (d.IsFresh accounts) :=
  inferInstanceAs (Decidable (∀ b ∈ d.revised.accounts.entries, _))

def IsFinished (d : Desk) : Prop := d.unit.saved = d.revised ∧ d.rows = []

instance (d : Desk) : Decidable d.IsFinished := inferInstanceAs (Decidable (_ ∧ _))

def events (d : Desk) (id : AccountId) : List AccountEvent := id.events (d.unit.staged ++ d.rows)

/-- What is at hand hangs together: the versions come of the accounts that were loaded, by the events made of them. -/
structure IsSound (d : Desk) : Prop where
  own : ∀ id a, d.loaded id = some a → a.id = id
  saved : ∀ id, d.revised.get? id = none → d.unit.saved.get? id = none
  silent : ∀ id, d.revised.get? id = none → d.events id = []
  told : ∀ id b, d.revised.get? id = some b → ∃ a, d.loaded id = some a ∧ Truthful (some a.profile) (d.events id) ∧
    replay (some a.profile) (d.events id) = some b.profile

/-- Two parties with the same versions and rows, the second of which has loaded from these accounts. -/
structure Agrees (accounts : AccountStore) (d e : Desk) : Prop where
  unit : e.unit = d.unit
  revised : e.revised = d.revised
  rows : e.rows = d.rows
  loaded : ∀ id, (d.loaded id).isSome → e.loaded id = accounts.get? id

variable {accounts others : AccountStore} {d d' e : Desk} {id : AccountId} {a b : Account} {t : Transition} {now : Time}
  {correlationId : Option String} {ids : IdSource} {es : List AccountEvent} {p : Step}

@[simp]
theorem loaded_hold (d : Desk) (id i : AccountId) (a? : Option Account) :
    (d.hold id a?).loaded i = if i = id then a? else d.loaded i :=
  Function.update_apply ..

@[simp]
theorem get?_rework (d : Desk) (b : Account) (rows : List Row) (id : AccountId) :
    (d.rework b rows).revised.get? id = if b.id = id then some b else d.revised.get? id :=
  AccountStore.get?_put ..

theorem steps_concat (accounts : AccountStore) (d : Desk) (ps : List Step) (p : Step) :
    d.steps accounts (ps ++ [p]) = (d.steps accounts ps).bind (·.step accounts p) := by
  rw [steps, steps, List.foldlM_append]
  refine congrArg _ (funext fun e => ?_)
  exact (List.foldlM_cons ..).trans (bind_pure _)

theorem isFresh_iff : d.IsFresh accounts ↔ ∀ id b, d.revised.get? id = some b → d.loaded id = accounts.get? id := by
  constructor
  · intro h id b hb
    obtain ⟨hmem, rfl⟩ := AccountStore.get?_eq_some_iff.1 hb
    exact h b hmem
  · exact fun h b hb => h b.id b (AccountStore.mem_iff_get?.1 hb)

theorem isSound_empty : empty.IsSound := by
  refine ⟨?_, fun _ _ => rfl, fun _ _ => rfl, ?_⟩
  · intro id a h
    cases h
  · intro id b h
    cases h

theorem IsSound.copy_id (h : d.IsSound) (ha : d.copy id = some a) : a.id = id := by
  rcases Option.or_eq_some_iff.1 ha with hr | ⟨-, hl⟩
  · exact AccountStore.id_of_get? hr
  · exact h.own id a hl

theorem step_revise_eq_some : d.step accounts (.revise id t now correlationId ids) = some d' ↔
    ∃ a b es, d.copy id = some a ∧ t.change a now = .ok (b, es) ∧
      d' = d.rework b (rowsOf correlationId now es ids) := by
  simp only [step]
  constructor
  · intro h
    split at h
    · cases h
    · rename_i a ha
      split at h
      · cases h
      · rename_i b es hb
        exact ⟨a, b, es, ha, hb, (Option.some.inj h).symm⟩
  · rintro ⟨a, b, es, ha, hb, rfl⟩
    simp only [ha, hb]

theorem IsSound.hold (h : d.IsSound) (hid : d.revised.get? id = none) (accounts : AccountStore) :
    (d.hold id (d.unit.load accounts id)).IsSound := by
  refine ⟨?_, h.saved, h.silent, ?_⟩
  · intro i a ha
    rw [loaded_hold] at ha
    split at ha
    · rename_i hi
      subst hi
      rw [UnitOfWork.load, h.saved i hid, Option.none_or] at ha
      exact AccountStore.id_of_get? ha
    · exact h.own i a ha
  · intro i b hb
    have hi : i ≠ id := by
      rintro rfl
      cases hid.symm.trans hb
    rw [loaded_hold, if_neg hi]
    exact h.told i b hb

theorem events_rework (htale : a.Tale now b es) (i : AccountId) :
    (d.rework b (rowsOf correlationId now es ids)).events i = d.events i ++ if b.id = i then es else [] := by
  have habout : ∀ e ∈ es, e.account = b.id := fun e he => (htale.about e he).1.trans htale.id.symm
  rw [events, rework, ← List.append_assoc, AccountId.events_append,
    AccountId.events_rowsOf correlationId now ids habout]
  rfl

theorem IsSound.rework (h : d.IsSound) (ha : d.copy id = some a) (htale : a.Tale now b es) :
    (d.rework b (rowsOf correlationId now es ids)).IsSound := by
  have hid : b.id = id := htale.id.trans (h.copy_id ha)
  have hother {i : AccountId} (hi : b.id ≠ i) :
      (d.rework b (rowsOf correlationId now es ids)).revised.get? i = d.revised.get? i ∧
        (d.rework b (rowsOf correlationId now es ids)).events i = d.events i := by
    rw [get?_rework, if_neg hi, events_rework htale, if_neg hi, List.append_nil]
    exact ⟨rfl, rfl⟩
  have hne {i : AccountId} (hi : (d.rework b (rowsOf correlationId now es ids)).revised.get? i = none) : b.id ≠ i := by
    rintro rfl
    rw [get?_rework, if_pos rfl] at hi
    cases hi
  refine ⟨h.own, ?_, ?_, ?_⟩
  · intro i hi
    exact h.saved i ((hother (hne hi)).1.symm.trans hi)
  · intro i hi
    exact (hother (hne hi)).2.trans (h.silent i ((hother (hne hi)).1.symm.trans hi))
  · intro i c hc
    by_cases hi : b.id = i
    · obtain rfl : id = i := hid.symm.trans hi
      rw [get?_rework, if_pos hid] at hc
      cases hc
      rw [events_rework htale, if_pos hid]
      rcases Option.or_eq_some_iff.1 ha with hr | ⟨hr, hl⟩
      · -- the account was revised before, and the new events go on from the old ones
        obtain ⟨a₀, ha₀, htruthful, hreplay⟩ := h.told id a hr
        refine ⟨a₀, ha₀, truthful_append.2 ⟨htruthful, ?_⟩, ?_⟩
        · rw [hreplay]
          exact htale.truthful
        · rw [replay_append, hreplay]
          exact htale.replay
      · rw [h.silent id hr]
        exact ⟨a, hl, htale.truthful, htale.replay⟩
    · rw [(hother hi).2]
      exact h.told i c ((hother hi).1.symm.trans hc)

theorem IsSound.step (h : d.IsSound) (hp : d.step accounts p = some d') : d'.IsSound := by
  cases p with
  | load id =>
      simp only [Desk.step] at hp
      split at hp
      · cases hp
        exact h
      · rename_i hid
        cases hp
        exact h.hold (by simpa using hid) accounts
  | revise id t now correlationId ids =>
      obtain ⟨a, b, es, ha, hb, rfl⟩ := step_revise_eq_some.1 hp
      exact h.rework ha (t.isTold a now b es hb)
  | save id =>
      simp only [Desk.step] at hp
      split at hp
      · cases hp
        exact h
      · rename_i a ha
        cases hp
        refine ⟨h.own, fun i hi => ?_, h.silent, h.told⟩
        have hne : a.id ≠ i := by
          rw [AccountStore.id_of_get? ha]
          rintro rfl
          rw [show d.revised.get? id = none from hi] at ha
          cases ha
        rw [UnitOfWork.save, AccountStore.get?_put, if_neg hne]
        exact h.saved i hi
  | stage =>
      cases hp
      have hevents (i : AccountId) :
          ({ d with unit := d.unit.stage d.rows, rows := [] } : Desk).events i = d.events i :=
        congrArg _ (List.append_nil _)
      refine ⟨h.own, h.saved, fun i hi => (hevents i).trans (h.silent i hi), fun i b hb => ?_⟩
      rw [hevents]
      exact h.told i b hb
  | commit =>
      cases hp
      exact h

theorem IsFresh.of_step (h : d'.IsFresh others) (hp : d.step accounts p = some d') : d.IsFresh others := by
  rw [isFresh_iff] at h ⊢
  intro id b hb
  cases p with
  | load i =>
      simp only [Desk.step] at hp
      split at hp
      · cases hp
        exact h id b hb
      · rename_i hi
        cases hp
        have hne : id ≠ i := by
          rintro rfl
          exact hi (Option.isSome_of_mem hb)
        rw [← h id b hb, loaded_hold, if_neg hne]
  | revise i t now correlationId ids =>
      obtain ⟨a, c, es, ha, hc, rfl⟩ := step_revise_eq_some.1 hp
      by_cases hid : c.id = id
      · exact h id c (by rw [get?_rework, if_pos hid])
      · exact h id b (by rw [get?_rework, if_neg hid, hb])
  | save i =>
      simp only [Desk.step] at hp
      split at hp <;> cases hp
      · exact h id b hb
      · exact h id b hb
  | stage | commit =>
      cases hp
      exact h id b hb

theorem agrees_empty (accounts : AccountStore) : Agrees accounts empty empty := by
  refine ⟨rfl, rfl, rfl, fun id h => ?_⟩
  cases h

theorem Agrees.copy (h : Agrees accounts d e) (hcopy : d.copy id = some a)
    (hfresh : d.loaded id = accounts.get? id) : e.copy id = some a := by
  rw [Desk.copy, h.revised]
  rcases Option.or_eq_some_iff.1 hcopy with hr | ⟨hr, hl⟩
  · rw [hr, Option.some_or]
  · rw [hr, Option.none_or, h.loaded id (Option.isSome_of_mem hl), ← hfresh, hl]

theorem Agrees.step (h : Agrees accounts d e) (hsound : d.IsSound) (hp : d.step others p = some d')
    (hfresh : d'.IsFresh accounts) : ∃ e', e.step accounts p = some e' ∧ Agrees accounts d' e' := by
  cases p with
  | load id =>
      simp only [Desk.step] at hp ⊢
      rw [h.revised]
      split at hp
      · rename_i hr
        cases hp
        exact ⟨e, if_pos hr, h⟩
      · rename_i hr
        cases hp
        refine ⟨_, if_neg hr, h.unit, h.revised, h.rows, fun i hi => ?_⟩
        rw [loaded_hold] at hi ⊢
        split at hi
        · rename_i hid
          subst hid
          have hnone := hsound.saved i (by simpa using hr)
          rw [if_pos rfl, UnitOfWork.load, h.unit, hnone, Option.none_or]
        · rename_i hid
          rw [if_neg hid]
          exact h.loaded i hi
  | revise id t now correlationId ids =>
      obtain ⟨a, b, es, ha, hb, rfl⟩ := step_revise_eq_some.1 hp
      have hid : b.id = id := (t.isTold a now b es hb).id.trans (hsound.copy_id ha)
      have hloaded := isFresh_iff.1 hfresh id b (by rw [get?_rework, if_pos hid])
      refine ⟨_, step_revise_eq_some.2 ⟨a, b, es, h.copy ha hloaded, hb, rfl⟩, h.unit, ?_, ?_, h.loaded⟩
      · rw [rework, rework, h.revised]
      · rw [rework, rework, h.rows]
  | save id =>
      simp only [Desk.step, h.revised] at hp ⊢
      cases hr : d.revised.get? id with
      | none =>
          rw [hr] at hp
          cases hp
          exact ⟨e, rfl, h⟩
      | some a =>
          rw [hr] at hp
          cases hp
          refine ⟨_, rfl, ?_, rfl, h.rows, h.loaded⟩
          rw [h.unit]
  | stage =>
      cases hp
      refine ⟨_, rfl, ?_, h.revised, rfl, h.loaded⟩
      rw [h.unit, h.rows]
  | commit =>
      cases hp
      exact ⟨e, rfl, h⟩

end Desk

end Outbox
