import Outbox.Proofs.Account.Desk
import Outbox.Proofs.Store.Insertion
import Outbox.Simulation.Command

namespace Outbox

theorem UnitOfWork.value_commit (u : UnitOfWork) (accounts : AccountStore) (store : Store) :
    (u.commit accounts store).value = u.apply accounts store := by
  unfold commit
  cases u.apply accounts store <;> rfl

namespace Simulation

/-- What is done with a unit before it ends, and what others make of the stores meanwhile. -/
inductive Use
  | load (id : AccountId)
  | save (a : Account)
  | stage (rows : List Row)
  | meanwhile (accounts : AccountStore) (store : Store)

namespace Use

def saved? : Use → Option Account
  | .save a => some a
  | _ => none

def rows : Use → List Row
  | .stage rows => rows
  | _ => []

def leave (stores : AccountStore × Store) : Use → AccountStore × Store
  | .meanwhile accounts store => (accounts, store)
  | _ => stores

def lastSaved (uses : List Use) (id : AccountId) : Option Account :=
  ((uses.filterMap saved?).filter (·.id = id)).getLast?

def staged (uses : List Use) : List Row := uses.flatMap rows

theorem lastSaved_save (uses : List Use) (a : Account) (id : AccountId) :
    lastSaved (uses ++ [.save a]) id = if a.id = id then some a else lastSaved uses id := by
  simp only [lastSaved, List.filterMap_append, List.filter_append, saved?, List.filterMap_cons, List.filterMap_nil]
  by_cases hid : a.id = id
  · simp [hid]
  · simp [hid]

theorem lastSaved_other (uses : List Use) {u : Use} (hu : u.saved? = none) (id : AccountId) :
    lastSaved (uses ++ [u]) id = lastSaved uses id := by
  simp only [lastSaved, List.filterMap_append, List.filterMap_cons, hu, List.filterMap_nil, List.append_nil]

theorem staged_concat (uses : List Use) (u : Use) : staged (uses ++ [u]) = staged uses ++ u.rows := by
  rw [staged, staged, List.flatMap_append, List.flatMap_singleton]

theorem staged_other (uses : List Use) {u : Use} (hu : u.rows = []) : staged (uses ++ [u]) = staged uses := by
  rw [staged_concat, hu, List.append_nil]

end Use

open Use

variable (listening : Bool) (name : String)

def Use.run (w : World) : Use → Answer × World
  | .load id => Command.run listening w (.load name id)
  | .save a => Command.run listening w (.save name a)
  | .stage rows => Command.run listening w (.stage name rows)
  | .meanwhile accounts store => (.nothing, { w with accounts, store })

/-- A unit holds what was saved last under each id, and all rows that were staged. -/
structure Holds (u : UnitOfWork) (uses : List Use) : Prop where
  staged : u.staged = staged uses
  saved : ∀ id, u.saved.get? id = lastSaved uses id

namespace World

def used (w : World) (uses : List Use) : World :=
  uses.foldl (fun w u => (u.run listening name w).2) (Command.run listening w (.beginUnit name)).2

theorem used_concat (w : World) (uses : List Use) (u : Use) :
    w.used listening name (uses ++ [u]) = (u.run listening name (w.used listening name uses)).2 := by
  rw [used, List.foldl_append]
  rfl

variable {listening name} {w : World} {u : UnitOfWork} {uses : List Use}

@[simp]
theorem unit?_putUnit (w : World) (name : String) (u : UnitOfWork) : (w.putUnit name u).unit? name = some u :=
  List.lookup_cons_self

@[simp]
theorem accounts_note (w : World) (listening : Bool) (events : List LogEvent) :
    (w.note listening events).accounts = w.accounts := by
  cases listening <;> rfl

@[simp]
theorem store_note (w : World) (listening : Bool) (events : List LogEvent) :
    (w.note listening events).store = w.store := by
  cases listening <;> rfl

theorem holds_run (hu : w.unit? name = some u) (h : Holds u uses) (use : Use) :
    ∃ u', (use.run listening name w).2.unit? name = some u' ∧ Holds u' (uses ++ [use]) := by
  cases use with
  | load id =>
      refine ⟨u, ?_, ?_, fun i => ?_⟩
      · simp only [Use.run, Command.run, withUnit, hu]
      · rw [staged_other uses rfl, h.staged]
      · rw [lastSaved_other uses rfl, h.saved]
  | save a =>
      refine ⟨u.save a, ?_, ?_, fun i => ?_⟩
      · simp only [Use.run, Command.run, withUnit, hu, unit?_putUnit]
      · rw [staged_other uses rfl]
        exact h.staged
      · rw [lastSaved_save, ← h.saved, UnitOfWork.save, AccountStore.get?_put]
  | stage rows =>
      refine ⟨u.stage rows, ?_, ?_, fun i => ?_⟩
      · simp only [Use.run, Command.run, withUnit, hu, unit?_putUnit]
      · rw [staged_concat, ← h.staged]
        rfl
      · rw [lastSaved_other uses rfl]
        exact h.saved i
  | meanwhile accounts store =>
      refine ⟨u, hu, ?_, fun i => ?_⟩
      · rw [staged_other uses rfl, h.staged]
      · rw [lastSaved_other uses rfl, h.saved]

theorem holds_used (w : World) (uses : List Use) :
    ∃ u, (w.used listening name uses).unit? name = some u ∧ Holds u uses := by
  induction uses using List.reverseRecOn with
  | nil => exact ⟨.start, unit?_putUnit w name .start, rfl, fun _ => rfl⟩
  | append_singleton uses use ih =>
      obtain ⟨u, hu, h⟩ := ih
      rw [used_concat]
      exact holds_run hu h use

theorem stores_run (hu : w.unit? name = some u) (use : Use) :
    ((use.run listening name w).2.accounts, (use.run listening name w).2.store) = use.leave (w.accounts, w.store) := by
  cases use with
  | load | save | stage =>
      simp only [Use.run, Command.run, withUnit, hu]
      rfl
  | meanwhile => rfl

theorem stores_used (w : World) (uses : List Use) :
    ((w.used listening name uses).accounts, (w.used listening name uses).store) =
      uses.foldl leave (w.accounts, w.store) := by
  induction uses using List.reverseRecOn with
  | nil => rfl
  | append_singleton uses use ih =>
      obtain ⟨u, hu, -⟩ : ∃ u, (w.used listening name uses).unit? name = some u ∧ Holds u uses := holds_used w uses
      rw [used_concat, stores_run hu, ih, List.foldl_append]
      rfl

theorem run_load (hu : w.unit? name = some u) (h : Holds u uses) (id : AccountId) :
    (Command.run listening w (.load name id)).1 = .account ((lastSaved uses id).or (w.accounts.get? id)) := by
  simp only [Command.run, withUnit, hu, UnitOfWork.load, h.saved]

theorem stores_rollback (hu : w.unit? name = some u) :
    (Command.run listening w (.rollback name)).2.accounts = w.accounts ∧
      (Command.run listening w (.rollback name)).2.store = w.store := by
  simp only [Command.run, withUnit, hu]
  exact ⟨rfl, rfl⟩

theorem run_commit_refused (hu : w.unit? name = some u) {e : StoreError} (h : w.store.add u.staged = .error e) :
    (Command.run listening w (.commit name)).1 = .committed (.error e) ∧
      (Command.run listening w (.commit name)).2.accounts = w.accounts ∧
      (Command.run listening w (.commit name)).2.store = w.store := by
  have hvalue : (u.commit w.accounts w.store).value = .error e := by
    rw [UnitOfWork.value_commit, UnitOfWork.apply, h]
    rfl
  simp only [Command.run, withUnit, hu, commitUnit, hvalue, accounts_note, store_note]
  exact ⟨trivial, rfl, rfl⟩

theorem run_commit_granted (hu : w.unit? name = some u) {store : Store} (h : w.store.add u.staged = .ok store) :
    (Command.run listening w (.commit name)).1 = .committed (.ok store.rows.size) ∧
      (Command.run listening w (.commit name)).2.accounts = w.accounts.putAll u.saved.accounts.entries ∧
      (Command.run listening w (.commit name)).2.store = store := by
  have hvalue : (u.commit w.accounts w.store).value = .ok (w.accounts.putAll u.saved.accounts.entries, store) := by
    rw [UnitOfWork.value_commit, UnitOfWork.apply, h]
    rfl
  simp only [Command.run, withUnit, hu, commitUnit, hvalue]
  exact ⟨rfl, trivial, trivial⟩

end World

theorem Holds.putAll {u : UnitOfWork} {uses : List Use} (h : Holds u uses) (accounts : AccountStore)
    {order : List Account} (hids : (order.map (·.id)).Nodup) (hmem : ∀ a, a ∈ order ↔ lastSaved uses a.id = some a) :
    accounts.putAll order = accounts.putAll u.saved.accounts.entries := by
  have hkeys : (order.map key).Nodup := by
    have hmap : order.map key = (order.map (·.id)).map (·.uuid.value) := by rw [List.map_map]; rfl
    rw [hmap]
    exact hids.map AccountId.value_injective
  have hsaved : u.saved.accounts.entries.Nodup := .of_map _ u.saved.accounts.nodup_keys
  have hperm : order.Perm u.saved.accounts.entries := by
    refine (List.perm_ext_iff_of_nodup (.of_map _ hkeys) hsaved).2 fun a => ?_
    rw [hmem, AccountStore.mem_iff_get?, h.saved]
  exact congrArg AccountStore.mk (Table.insertAll_perm hperm hkeys accounts.accounts)

namespace World

/-- A unit of work changes neither store until it is committed, and none if it is rolled back or dropped for another.
It finds the accounts that it saved as it saved them last. It cannot be committed if a row that it staged collides, and
then leaves both stores as they are. Otherwise all of its rows and the last of its accounts under each id are stored,
in whatever order these are written, and nothing else is changed. -/
theorem unit_transacts (listening : Bool) (name : String) (w : World) (uses : List Use) :
    let v := w.used listening name uses
    let rows := staged uses
    let committed := Command.run listening v (.commit name)
    (v.accounts, v.store) = uses.foldl leave (w.accounts, w.store) ∧
    (∀ id, (Command.run listening v (.load name id)).1 = .account ((lastSaved uses id).or (v.accounts.get? id))) ∧
    (∀ c ∈ [Command.rollback name, .beginUnit name],
      (Command.run listening v c).2.accounts = v.accounts ∧ (Command.run listening v c).2.store = v.store) ∧
    ((∃ r ∈ rows, v.store.Collides rows r) → ∃ id, v.store.Refuses rows id ∧
      committed.1 = .committed (.error (.alreadyExists id)) ∧ committed.2.accounts = v.accounts ∧
      committed.2.store = v.store) ∧
    ((∀ r ∈ rows, ¬ v.store.Collides rows r) → committed.1 = .committed (.ok committed.2.store.rows.size) ∧
      (∀ r ∈ rows, committed.2.store.get? r.id = some r) ∧
      (∀ id, (∀ r ∈ rows, r.id ≠ id) → committed.2.store.get? id = v.store.get? id) ∧
      (∀ id, committed.2.accounts.get? id = (lastSaved uses id).or (v.accounts.get? id)) ∧
      ∀ order : List Account, (order.map (·.id)).Nodup → (∀ a, a ∈ order ↔ lastSaved uses a.id = some a) →
        committed.2.accounts = v.accounts.putAll order) := by
  intro v rows committed
  obtain ⟨u, hu, h⟩ : ∃ u, v.unit? name = some u ∧ Holds u uses := holds_used w uses
  have hstaged : u.staged = rows := h.staged
  refine ⟨stores_used w uses, run_load hu h, ?_, ?_, ?_⟩
  · intro c hc
    rcases List.mem_cons.1 hc with rfl | hc
    · exact stores_rollback hu
    · rcases List.mem_singleton.1 hc with rfl
      exact ⟨rfl, rfl⟩
  · intro hcollides
    obtain ⟨id, hid⟩ := Store.exists_refuses_iff.2 hcollides
    exact ⟨id, hid, run_commit_refused hu (hstaged ▸ Store.add_of_refuses hid)⟩
  · intro hfree
    have hadd := Store.add_of_admits (Store.admits_iff.2 hfree)
    obtain ⟨hnodup, -, hget⟩ := Store.add_eq_ok hadd
    rw [← hstaged] at hadd
    obtain ⟨hanswer, haccounts, hstore⟩ : committed.1 = _ ∧ committed.2.accounts = _ ∧ committed.2.store = _ :=
      run_commit_granted hu hadd
    rw [hstaged] at hanswer hstore
    refine ⟨?_, fun r hr => ?_, fun id hid => ?_, fun id => ?_, fun order hids hmem => ?_⟩
    · exact hstore ▸ hanswer
    · rw [hstore, hget, Store.find?_id_eq_some hnodup hr, Option.some_or]
    · rw [hstore, hget, Store.find?_id_eq_none.2 hid, Option.none_or]
    · rw [haccounts, AccountStore.get?_putAll, h.saved]
    · rw [haccounts, h.putAll v.accounts hids hmem]

def version (name : String) : Account := .create ⟨.ofWord 1⟩ ⟨name⟩ ⟨"11144477735"⟩ .epoch

/-- One account is saved twice, and two rows are staged. Whether they can be committed depends on the rows that others
have added by then. -/
def saving (others : Store) : List Use :=
  [.save (version "Ana"), .stage [Row.sample 2], .save (version "Bea"), .stage [Row.sample 1],
    .meanwhile .empty others]

theorem unit_transacts_late :
    let free := (start .epoch []).used true "unit" (saving (Store.empty.put (Row.sample 9)))
    let taken := (start .epoch []).used true "unit" (saving (Store.empty.put (Row.sample 1)))
    let rows := [Row.sample 2, Row.sample 1]
    ((∀ r ∈ rows, ¬ free.store.Collides rows r) ∧
      (Command.run true free (.commit "unit")).2.store.get? (Row.sample 1).id = some (Row.sample 1) ∧
      (Command.run true free (.commit "unit")).2.store.get? (Row.sample 9).id = some (Row.sample 9) ∧
      (Command.run true free (.commit "unit")).2.accounts.get? ⟨.ofWord 1⟩ = some (version "Bea") ∧
      (Command.run true free (.commit "unit")).2.accounts = AccountStore.empty.putAll [version "Bea"]) ∧
    (∃ r ∈ rows, taken.store.Collides rows r) ∧
      (Command.run true taken (.commit "unit")).2.accounts = .empty ∧
      (Command.run true taken (.commit "unit")).2.store = Store.empty.put (Row.sample 1) := by
  intro free taken rows
  obtain ⟨-, -, -, -, hgranted⟩ :=
    unit_transacts true "unit" (start .epoch []) (saving (Store.empty.put (Row.sample 9)))
  obtain ⟨-, -, -, hrefused, -⟩ :=
    unit_transacts true "unit" (start .epoch []) (saving (Store.empty.put (Row.sample 1)))
  have hfree : ∀ r ∈ rows, ¬ free.store.Collides rows r := by decide +kernel
  have htaken : ∃ r ∈ rows, taken.store.Collides rows r := by decide +kernel
  obtain ⟨-, hstored, hkept, haccounts, hwritten⟩ := hgranted hfree
  obtain ⟨-, -, -, hsame⟩ := hrefused htaken
  refine ⟨⟨hfree, hstored _ (by decide +kernel), (hkept _ (by decide +kernel)).trans rfl, (haccounts _).trans rfl, ?_⟩,
    htaken, hsame⟩
  apply hwritten [version "Bea"] (by decide)
  intro a
  rw [List.mem_singleton]
  constructor
  · rintro rfl
    rfl
  · intro ha
    by_cases hid : (version "Bea").id = a.id
    · have hlast : lastSaved (saving (Store.empty.put (Row.sample 9))) (version "Bea").id = some (version "Bea") := rfl
      rw [← hid, hlast] at ha
      exact (Option.some.inj ha).symm
    · have hana : (version "Ana").id ≠ a.id := hid
      have hnone : lastSaved (saving (Store.empty.put (Row.sample 9))) a.id = none := by
        simp [saving, lastSaved, saved?, hid, hana]
      cases hnone.symm.trans ha

/-- Of rows that are staged twice, the first may not be the one that is named: the second is staged again before it. -/
theorem first_staged_twice_not_named :
    let uses := [Use.stage [Row.sample 1, Row.sample 2], .stage [Row.sample 2, Row.sample 1]]
    let v := (start .epoch []).used true "unit" uses
    (staged uses).find? (fun r => v.store.Collides (staged uses) r) = some (Row.sample 1) ∧
      (Command.run true v (.commit "unit")).1 = .committed (.error (.alreadyExists (Row.sample 2).id)) ∧
      (Row.sample 2).id ≠ (Row.sample 1).id :=
  ⟨by decide +kernel, rfl, by decide⟩

end World

end Simulation

end Outbox
