import Outbox.Proofs.Account.Desk

namespace Outbox

open AccountEvent UnitOfWork

/-- The rows tell of every account how it came to be what it is. -/
def Told (accounts : AccountStore) (rows : List Row) : Prop :=
  ∀ id : AccountId, Truthful none (id.events rows) ∧
    replay none (id.events rows) = (accounts.get? id).map Account.profile

theorem Office.Faithful.tells {ι : Type} {o : Office ι} {rows : List Row} (h : o.Faithful rows) :
    Told o.accounts rows :=
  fun id => ⟨h.truthful id, h.replayed id⟩

/-- Parties that share their stores, each with a unit of work until that is committed or given up, and the units
committed so far. -/
structure Desks (ι : Type) where
  accounts : AccountStore
  store : Store
  desk : ι → Option Desk
  done : List (ι × Desk)

namespace Desks

variable {ι : Type} [DecidableEq ι]

def opened (accounts : AccountStore) (store : Store) : Desks ι := ⟨accounts, store, fun _ => some .empty, []⟩

def put (s : Desks ι) (i : ι) (d? : Option Desk) : Desks ι := { s with desk := Function.update s.desk i d? }

def commit (s : Desks ι) (i : ι) : Desks ι :=
  match s.desk i with
  | none => s
  | some d =>
    match d.unit.apply s.accounts s.store with
    | .error _ => s.put i none
    | .ok (accounts, store) => { s.put i none with accounts, store, done := s.done ++ [(i, d)] }

def act (s : Desks ι) (i : ι) (p : Step) : Desks ι :=
  if p.isCommit then s.commit i else s.put i ((s.desk i).bind (·.step s.accounts p))

def after (s : Desks ι) (steps : List (ι × Step)) : Desks ι := steps.foldl (fun s (i, p) => s.act i p) s

omit [DecidableEq ι] in
def journal (units : List (ι × Desk)) : List Row := units.flatMap (·.2.unit.staged)

def turn (i : ι) (steps : List (ι × Step)) : List Step := (steps.filter (·.1 = i)).map (·.2)

def script (i : ι) (steps : List (ι × Step)) : List Step := (turn i steps).takeWhile (!·.isCommit)

def conduct (stores : AccountStore × Store) (ps : List Step) : AccountStore × Store :=
  match Desk.empty.steps stores.1 ps with
  | none => stores
  | some d => (d.unit.apply stores.1 stores.2).toOption.getD stores

def conductAll (stores : AccountStore × Store) (scripts : List (List Step)) : AccountStore × Store :=
  scripts.foldl conduct stores

/-- A party that commits with success has revised no account that is not as it was when it loaded it. -/
def IsSafe (s : Desks ι) (i : ι) (p : Step) : Prop :=
  p.isCommit = true → ∀ d ∈ s.desk i, (d.unit.apply s.accounts s.store).isOk = true → d.IsFresh s.accounts

def IsCareful : Desks ι → List (ι × Step) → Prop
  | _, [] => True
  | s, (i, p) :: steps => s.IsSafe i p ∧ (s.act i p).IsCareful steps

omit [DecidableEq ι] in
instance (s : Desks ι) (i : ι) (p : Step) : Decidable (s.IsSafe i p) :=
  inferInstanceAs (Decidable (_ → ∀ d ∈ s.desk i, _ → _))

instance isCarefulDecidable : (s : Desks ι) → (steps : List (ι × Step)) → Decidable (s.IsCareful steps)
  | _, [] => isTrue trivial
  | s, (i, p) :: steps => @instDecidableAnd _ _ _ (isCarefulDecidable (s.act i p) steps)

/-- After these steps the parties at work are where they would be alone, and the stores where the units committed so
far would have taken them one after the other. -/
structure Follows (stores : AccountStore × Store) (s : Desks ι) (steps : List (ι × Step)) : Prop where
  begun : ∀ i d, s.desk i = some d → (turn i steps).all (!·.isCommit) = true ∧ d.IsSound ∧
    ∀ accounts, d.IsFresh accounts → ∃ e, Desk.empty.steps accounts (turn i steps) = some e ∧ d.Agrees accounts e
  ended : ∀ p ∈ s.done, ∃ q ∈ turn p.1 steps, q.isCommit = true
  stores : (s.accounts, s.store) = conductAll stores (s.done.map fun p => script p.1 steps)

variable {accounts : AccountStore} {store : Store} {stores : AccountStore × Store} {s : Desks ι} {i j : ι} {p : Step}
  {steps past : List (ι × Step)} {d : Desk}

@[simp]
theorem desk_put (s : Desks ι) (i j : ι) (d? : Option Desk) :
    (s.put i d?).desk j = if j = i then d? else s.desk j :=
  Function.update_apply ..

theorem turn_append (i : ι) (steps more : List (ι × Step)) : turn i (steps ++ more) = turn i steps ++ turn i more := by
  simp [turn]

theorem turn_append_of_ne (h : j ≠ i) : turn i (steps ++ [(j, p)]) = turn i steps := by
  simp [turn, h]

theorem turn_append_self (i : ι) (p : Step) : turn i (steps ++ [(i, p)]) = turn i steps ++ [p] := by
  rw [turn_append, turn, turn, List.filter_cons_of_pos (by simp)]
  rfl

theorem script_eq_turn (h : (turn i steps).all (!·.isCommit) = true) :
    script i (steps ++ [(i, .commit)]) = turn i steps := by
  rw [script, turn_append_self, List.takeWhile_append_of_pos (List.all_eq_true.1 h)]
  exact List.append_nil _

theorem script_append (h : ∃ q ∈ turn i steps, q.isCommit = true) (more : List (ι × Step)) :
    script i (steps ++ more) = script i steps := by
  obtain ⟨q, hq, hcommit⟩ := h
  rw [script, script, turn_append, List.takeWhile_append, if_neg]
  intro hlength
  have hall := List.takeWhile_eq_self_iff.1 ((List.takeWhile_prefix _).eq_of_length hlength) q hq
  rw [hcommit] at hall
  cases hall

theorem follows_opened (accounts : AccountStore) (store : Store) :
    Follows (accounts, store) (opened accounts store : Desks ι) [] := by
  refine ⟨?_, by simp [opened], rfl⟩
  intro i d hd
  cases hd
  exact ⟨rfl, Desk.isSound_empty, fun accounts _ => ⟨_, rfl, Desk.agrees_empty accounts⟩⟩

theorem Follows.ended_append (h : Follows stores s past) (more : List (ι × Step)) :
    ∀ q ∈ s.done, ∃ r ∈ turn q.1 (past ++ more), r.isCommit = true := by
  intro q hq
  obtain ⟨r, hr, hcommit⟩ := h.ended q hq
  exact ⟨r, by rw [turn_append]; exact List.mem_append_left _ hr, hcommit⟩

theorem Follows.stores_append (h : Follows stores s past) (more : List (ι × Step)) :
    (s.accounts, s.store) = conductAll stores (s.done.map fun q => script q.1 (past ++ more)) := by
  rw [h.stores]
  refine congrArg _ (List.map_congr_left fun q hq => ?_)
  rw [script_append (h.ended q hq)]

theorem Follows.begun_other (h : Follows stores s past) (hne : j ≠ i) (hd : s.desk j = some d) :
    (turn j (past ++ [(i, p)])).all (!·.isCommit) = true ∧ d.IsSound ∧ ∀ accounts, d.IsFresh accounts →
      ∃ e, Desk.empty.steps accounts (turn j (past ++ [(i, p)])) = some e ∧ d.Agrees accounts e := by
  rw [turn_append_of_ne hne.symm]
  exact h.begun j d hd

theorem Follows.put_none (h : Follows stores s past) (i : ι) (p : Step) :
    Follows stores (s.put i none) (past ++ [(i, p)]) := by
  refine ⟨fun j d hd => ?_, h.ended_append _, h.stores_append _⟩
  rw [desk_put] at hd
  split at hd
  · cases hd
  · rename_i hne
    exact h.begun_other hne hd

theorem Follows.step (h : Follows stores s past) (i : ι) (hp : p.isCommit = false) :
    Follows stores (s.put i ((s.desk i).bind (·.step s.accounts p))) (past ++ [(i, p)]) := by
  refine ⟨fun j d' hd' => ?_, h.ended_append _, h.stores_append _⟩
  rw [desk_put] at hd'
  split at hd'
  · rename_i hj
    subst hj
    obtain ⟨d, hd, hstep⟩ := Option.bind_eq_some_iff.1 hd'
    obtain ⟨hall, hsound, hagrees⟩ := h.begun j d hd
    rw [turn_append_self]
    refine ⟨?_, hsound.step hstep, fun accounts hfresh => ?_⟩
    · rw [List.all_append, hall, List.all_cons, hp]
      rfl
    · obtain ⟨e, he, hagree⟩ := hagrees accounts (hfresh.of_step hstep)
      obtain ⟨e', he', hagree'⟩ := hagree.step hsound hstep hfresh
      refine ⟨e', ?_, hagree'⟩
      rw [Desk.steps_concat, he]
      exact he'
  · rename_i hj
    exact h.begun_other hj hd'

theorem Follows.commit (h : Follows stores s past) (hsafe : s.IsSafe i .commit) :
    Follows stores (s.commit i) (past ++ [(i, .commit)]) := by
  unfold Desks.commit
  cases hd : s.desk i with
  | none =>
      have hput : s.put i none = s := by rw [put, ← hd, Function.update_eq_self]
      rw [← hput]
      exact h.put_none i .commit
  | some d =>
      dsimp only
      cases happly : d.unit.apply s.accounts s.store with
      | error e => exact h.put_none i .commit
      | ok result =>
          obtain ⟨hall, -, hagrees⟩ := h.begun i d hd
          obtain ⟨e, he, hagree⟩ := hagrees s.accounts (hsafe rfl d hd (by rw [happly]; rfl))
          refine ⟨(h.put_none i .commit).begun, fun q hq => ?_, ?_⟩
          · rcases List.mem_append.1 hq with hq | hq
            · exact h.ended_append _ q hq
            · obtain rfl := List.mem_singleton.1 hq
              exact ⟨.commit, by rw [turn_append_self]; exact List.mem_append_right _ (List.mem_singleton_self _), rfl⟩
          · -- alone after the others, the unit would have had the same at hand, and so it commits the same
            have hconduct : conduct (s.accounts, s.store) (turn i past) = result := by
              rw [conduct, he]
              dsimp only
              rw [hagree.unit, happly]
              rfl
            have hbefore := h.stores_append [(i, .commit)]
            rw [conductAll] at hbefore ⊢
            rw [List.map_append, List.foldl_append, ← hbefore, List.map_singleton, script_eq_turn hall]
            exact hconduct.symm

theorem Follows.act (h : Follows stores s past) (hsafe : s.IsSafe i p) :
    Follows stores (s.act i p) (past ++ [(i, p)]) := by
  unfold Desks.act
  split
  · rename_i hp
    cases p with
    | commit => exact h.commit hsafe
    | _ => cases hp
  · rename_i hp
    exact h.step i (by simpa using hp)

theorem Follows.after (h : Follows stores s past) (hcareful : s.IsCareful steps) :
    Follows stores (s.after steps) (past ++ steps) := by
  induction steps generalizing s past with
  | nil => rwa [List.append_nil]
  | cons q steps ih =>
      obtain ⟨i, p⟩ := q
      obtain ⟨hsafe, hrest⟩ := hcareful
      rw [List.append_cons]
      exact ih (h.act hsafe) hrest

theorem told_commit {rows : List Row} {accounts' : AccountStore} {store' : Store} (htold : Told accounts rows)
    (hd : d.IsSound) (hfresh : d.IsFresh accounts) (hfinished : d.IsFinished)
    (happly : d.unit.apply accounts store = .ok (accounts', store')) : Told accounts' (rows ++ d.unit.staged) := by
  obtain ⟨rfl, -⟩ := UnitOfWork.apply_ok happly
  obtain ⟨hsaved, hrows⟩ := hfinished
  have hevents (id : AccountId) : d.events id = id.events d.unit.staged := by
    rw [Desk.events, hrows, List.append_nil]
  intro id
  obtain ⟨htruthful, hreplay⟩ := htold id
  rw [hsaved, AccountStore.get?_putAll, AccountId.events_append, ← hevents, truthful_append, replay_append]
  cases hr : d.revised.get? id with
  | none =>
      rw [hd.silent id hr, Option.none_or]
      exact ⟨⟨htruthful, trivial⟩, hreplay⟩
  | some b =>
      obtain ⟨a, ha, htruthful', hreplay'⟩ := hd.told id b hr
      rw [Desk.isFresh_iff.1 hfresh id b hr] at ha
      rw [hreplay, ha, Option.map_some, Option.some_or]
      exact ⟨⟨htruthful, htruthful'⟩, hreplay'⟩

/-- Units are committed between the two states, and their rows, which are in the store, tell what that made of the
accounts. -/
structure Commits (s : Desks ι) (units : List (ι × Desk)) (t : Desks ι) : Prop where
  done : t.done = s.done ++ units
  stored : ∀ r, r ∈ t.store.rows.entries ↔ r ∈ journal units ∨ r ∈ s.store.rows.entries
  told : ∀ rows, Told s.accounts rows → (∀ q ∈ units, q.2.IsFinished) → Told t.accounts (rows ++ journal units)

omit [DecidableEq ι] in
theorem Commits.refl (s : Desks ι) : Commits s [] s := by
  refine ⟨(List.append_nil _).symm, by simp [journal], fun rows hrows _ => ?_⟩
  rwa [journal, List.flatMap_nil, List.append_nil]

theorem commits_put (s : Desks ι) (i : ι) (d? : Option Desk) : Commits s [] (s.put i d?) := by
  obtain ⟨hdone, hstored, htold⟩ := Commits.refl s
  exact ⟨hdone, hstored, htold⟩

omit [DecidableEq ι] in
theorem Commits.trans {t u : Desks ι} {units more : List (ι × Desk)} (h : Commits s units t)
    (h' : Commits t more u) : Commits s (units ++ more) u := by
  have hjournal : journal (units ++ more) = journal units ++ journal more := List.flatMap_append
  refine ⟨?_, fun r => ?_, fun rows hrows hfinished => ?_⟩
  · rw [h'.done, h.done, List.append_assoc]
  · rw [h'.stored, h.stored, hjournal, List.mem_append, or_left_comm, or_assoc]
  · obtain ⟨hunits, hmore⟩ := List.forall_mem_append.1 hfinished
    rw [hjournal, ← List.append_assoc]
    exact h'.told _ (h.told rows hrows hunits) hmore

omit [DecidableEq ι] in
theorem commits_apply {result : AccountStore × Store} {desk : ι → Option Desk} (hsound : d.IsSound)
    (hfresh : d.IsFresh s.accounts) (happly : d.unit.apply s.accounts s.store = .ok result) :
    Commits s [(i, d)] ⟨result.1, result.2, desk, s.done ++ [(i, d)]⟩ := by
  have hjournal : journal [(i, d)] = d.unit.staged := List.append_nil _
  refine ⟨rfl, fun r => ?_, fun rows hrows hfinished => ?_⟩
  · rw [hjournal]
    exact Store.mem_of_add (UnitOfWork.apply_ok happly).2
  · rw [hjournal]
    exact told_commit hrows hsound hfresh (hfinished _ (List.mem_singleton_self _)) happly

theorem Follows.commits_act (h : Follows stores s past) (hsafe : s.IsSafe i p) :
    ∃ units, Commits s units (s.act i p) := by
  unfold Desks.act
  split
  · rename_i hp
    unfold Desks.commit
    cases hd : s.desk i with
    | none => exact ⟨[], .refl s⟩
    | some d =>
        dsimp only
        cases happly : d.unit.apply s.accounts s.store with
        | error e => exact ⟨[], commits_put s i none⟩
        | ok result =>
            have hfresh := hsafe hp d hd (by rw [happly]; rfl)
            exact ⟨[(i, d)], commits_apply (h.begun i d hd).2.1 hfresh happly⟩
  · exact ⟨[], commits_put s i _⟩

theorem Follows.commits_after (h : Follows stores s past) (hcareful : s.IsCareful steps) :
    ∃ units, Commits s units (s.after steps) := by
  induction steps generalizing s past with
  | nil => exact ⟨[], .refl s⟩
  | cons q steps ih =>
      obtain ⟨i, p⟩ := q
      obtain ⟨hsafe, hrest⟩ := hcareful
      obtain ⟨units, hunits⟩ := h.commits_act hsafe
      obtain ⟨more, hmore⟩ := ih (h.act hsafe) hrest
      exact ⟨units ++ more, hunits.trans hmore⟩

/-- Units that commit over nothing that has changed since they loaded it leave the stores where they would be had the
units come one after the other in the order of their commits, and all that they change is told by the rows they add. -/
theorem interleaved_as_in_turn (accounts : AccountStore) (store : Store) (steps : List (ι × Step))
    (hcareful : (opened accounts store).IsCareful steps) :
    let s := (opened accounts store).after steps
    (s.accounts, s.store) = conductAll (accounts, store) (s.done.map fun p => script p.1 steps) ∧
    (∀ r, r ∈ s.store.rows.entries ↔ r ∈ journal s.done ∨ r ∈ store.rows.entries) ∧
    ∀ rows, Told accounts rows → (∀ p ∈ s.done, p.2.IsFinished) → Told s.accounts (rows ++ journal s.done) := by
  intro s
  have h : Follows (accounts, store) (opened accounts store : Desks ι) [] := follows_opened accounts store
  obtain ⟨units, hunits⟩ := h.commits_after hcareful
  obtain rfl : s.done = units := hunits.done
  exact ⟨(h.after hcareful).stores, hunits.stored, hunits.told⟩

def creation : Call Unit := ⟨(), .byId, .epoch, none, .create "Ana" "11144477735"⟩

def vacant : Office Unit := .opened fun _ => .sequential 1

def office : Office Unit := vacant.serve creation

def ana : AccountId := ⟨.ofWord 1⟩

/-- One unit gives the account another name and one deactivates it, and both load it before either commits. -/
def overlapping : List (Bool × Step) :=
  [(true, .load ana), (false, .load ana), (true, .revise ana (.rename ⟨"Bea"⟩) .epoch none (.sequential 10)),
    (true, .save ana), (true, .stage), (false, .revise ana .deactivate .epoch none (.sequential 20)), (false, .stage),
    (false, .save ana), (true, .commit), (false, .commit)]

theorem overlapping_loses_name : let s := (opened office.accounts office.store).after overlapping
    s.done.map (·.1) = [true, false] ∧ (∀ p ∈ s.done, p.2.IsFinished) ∧
    s.accounts ≠ (conductAll (office.accounts, office.store) [script true overlapping, script false overlapping]).1 ∧
    (s.accounts.get? ana).map Account.profile = some ⟨"Ana", "11144477735", false, false⟩ ∧
    replay none (ana.events (vacant.committed creation ++ journal s.done)) =
      some ⟨"Bea", "11144477735", false, false⟩ := by
  intro s
  have hcreation : vacant.committed creation =
      rowsOf none .epoch [.created ana "Ana" "11144477735" true false .epoch] (IdSource.sequential 1).take.2 := by rfl
  have hjournal : journal s.done =
      rowsOf none .epoch [.nameChanged ana "Ana" "Bea", .updated ana "Bea" "11144477735" true false .epoch]
        (.sequential 10) ++ rowsOf none .epoch [.deactivated ana] (.sequential 20) := by rfl
  refine ⟨by decide +kernel, by decide +kernel, by decide +kernel, by decide +kernel, ?_⟩
  have hevents (es : List AccountEvent) (ids : IdSource) (hes : es.all (·.account = ana) = true) :
      ana.events (rowsOf none .epoch es ids) = es := by
    rw [AccountId.events_rowsOf none .epoch ids (by simpa using hes), if_pos rfl]
  rw [hcreation, hjournal, AccountId.events_append, AccountId.events_append, hevents _ _ (by decide),
    hevents _ _ (by decide), hevents _ _ (by decide)]
  rfl

/-- The same two units, of which the second loads the account once more after the first has committed. -/
def reloading : List (Bool × Step) :=
  [(false, .load ana), (true, .load ana), (true, .revise ana (.rename ⟨"Bea"⟩) .epoch none (.sequential 10)),
    (true, .stage), (true, .save ana), (true, .commit), (false, .load ana),
    (false, .revise ana .deactivate .epoch none (.sequential 20)), (false, .save ana), (false, .stage),
    (false, .commit)]

theorem interleaved_as_in_turn_reloading : let s := (opened office.accounts office.store).after reloading
    (s.accounts, s.store) =
      conductAll (office.accounts, office.store) [script true reloading, script false reloading] ∧
    (s.accounts.get? ana).map Account.profile = some ⟨"Bea", "11144477735", false, false⟩ ∧
    replay none (ana.events (vacant.committed creation ++ journal s.done)) =
      some ⟨"Bea", "11144477735", false, false⟩ := by
  intro s
  obtain ⟨hstores, -, htold⟩ := interleaved_as_in_turn office.accounts office.store reloading (by decide +kernel)
  have hdone : s.done.map (·.1) = [true, false] := by decide +kernel
  have hscripts : s.done.map (fun p => script p.1 reloading) = (s.done.map (·.1)).map (script · reloading) := by
    rw [List.map_map]
    rfl
  have hprofile : (s.accounts.get? ana).map Account.profile = some ⟨"Bea", "11144477735", false, false⟩ := by
    decide +kernel
  have hcreated := (Office.serve_faithful (Office.faithful_opened fun _ => .sequential 1) creation).tells
  refine ⟨?_, hprofile, ((htold _ hcreated (by decide +kernel)) ana).2.trans hprofile⟩
  rw [hstores, hscripts, hdone]
  rfl

end Desks

end Outbox
