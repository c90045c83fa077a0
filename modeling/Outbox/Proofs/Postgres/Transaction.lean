import Outbox.Proofs.Postgres.Line

namespace Outbox.Postgres

inductive Blames : Statement → Failure → StoreError → Prop
  | taken (r : Row) (message : String) :
      Blames (.insert r) (.database uniqueViolation message) (.alreadyExists r.id)
  | failed {s : Statement} {e : Failure} (operation : String)
      (h : ∀ r message, s = .insert r → e ≠ .database uniqueViolation message) :
      Blames s e (e.toStoreError operation)

theorem Blames.insert {r : Row} {e : Failure} {error : StoreError} (h : Blames (.insert r) e error) :
    (error = .alreadyExists r.id ↔ ∃ message, e = .database uniqueViolation message) ∧
      (error = .alreadyExists r.id ∨ ∃ text, error = .storage text) := by
  cases h with
  | taken _ message => exact ⟨iff_of_true rfl ⟨message, rfl⟩, .inl rfl⟩
  | failed operation h =>
      refine ⟨iff_of_false ?_ fun ⟨message, he⟩ => h r message rfl he, .inr ⟨_, rfl⟩⟩
      exact fun heq => nomatch heq

theorem Blames.alreadyExists {s : Statement} {e : Failure} {id : EventId} (h : Blames s e (.alreadyExists id)) :
    ∃ r message, s = .insert r ∧ e = .database uniqueViolation message ∧ r.id = id := by
  cases h with
  | taken r message => exact ⟨r, message, rfl, rfl, rfl⟩

/-- The statements of a plan, asked one after another up to the first that is refused, with the error of that one. -/
inductive InTurn : List Statement → List (Statement × Reply) → Option StoreError → Prop
  | done : InTurn [] [] none
  | refused {s : Statement} {e : Failure} {refusal : StoreError} (plan : List Statement) (h : Blames s e refusal) :
      InTurn (s :: plan) [(s, .error e)] (some refusal)
  | served (s : Statement) (result : Result) {plan : List Statement} {asked : List (Statement × Reply)}
      {refusal : Option StoreError} (h : InTurn plan asked refusal) :
      InTurn (s :: plan) ((s, .ok result) :: asked) refusal

namespace InTurn

variable {plan work : List Statement} {asked : List (Statement × Reply)} {refusal : Option StoreError}

theorem append (h : InTurn work asked none) {asked' : List (Statement × Reply)} (h' : InTurn plan asked' refusal) :
    InTurn (work ++ plan) (asked ++ asked') refusal := by
  generalize hnone : (none : Option StoreError) = o at h
  induction h with
  | done => exact h'
  | refused _ _ => cases hnone
  | served s result _ ih => exact .served s result (ih hnone)

theorem cut {e : StoreError} (h : InTurn work asked (some e)) (plan : List Statement) :
    InTurn (work ++ plan) asked (some e) := by
  generalize hsome : some e = o at h ⊢
  induction h with
  | done => cases hsome
  | refused rest h => exact .refused (rest ++ plan) h
  | served s result _ ih => exact .served s result (ih hsome)

theorem mem_plan (h : InTurn plan asked refusal) {s : Statement} {r : Reply} (hmem : (s, r) ∈ asked) : s ∈ plan := by
  induction h with
  | done => cases hmem
  | refused rest _ =>
      cases List.mem_singleton.1 hmem
      exact List.mem_cons_self
  | served s' result _ ih =>
      rcases List.mem_cons.1 hmem with heq | hmem
      · cases heq
        exact List.mem_cons_self
      · exact List.mem_cons_of_mem s' (ih hmem)

theorem exists_head {s : Statement} (h : InTurn (s :: plan) asked refusal) : ∃ r, (s, r) ∈ asked := by
  cases h with
  | refused _ _ => exact ⟨_, List.mem_singleton_self _⟩
  | served _ result _ => exact ⟨_, List.mem_cons_self⟩

theorem eq_none_iff (h : InTurn plan asked refusal) : refusal = none ↔ ∀ x ∈ asked, x.2.isOk := by
  induction h with
  | done => simp
  | refused _ _ => simp [Except.isOk, Except.toBool]
  | served s result _ ih => simp [ih, Except.isOk, Except.toBool]

theorem blames (h : InTurn plan asked refusal) {s : Statement} {e : Failure} (hmem : (s, .error e) ∈ asked) :
    ∃ error, refusal = some error ∧ Blames s e error := by
  induction h with
  | done => cases hmem
  | refused rest h =>
      cases List.mem_singleton.1 hmem
      exact ⟨_, rfl, h⟩
  | served s' result _ ih => exact ih (by simpa using hmem)

theorem exists_blamed {error : StoreError} (h : InTurn plan asked (some error)) :
    ∃ s e, (s, .error e) ∈ asked ∧ Blames s e error := by
  generalize hsome : some error = o at h
  induction h with
  | done => cases hsome
  | refused rest h =>
      cases hsome
      exact ⟨_, _, List.mem_singleton_self _, h⟩
  | served s result _ ih =>
      obtain ⟨s', e, hmem, hblames⟩ := ih hsome
      exact ⟨s', e, List.mem_cons_of_mem _ hmem, hblames⟩

theorem commit_cases (h : InTurn (work ++ [.commit]) asked refusal) :
    (∃ e, refusal = some e ∧ InTurn work asked (some e)) ∨
      ∃ before r, asked = before ++ [(.commit, r)] ∧ InTurn work before none ∧ (refusal = none ↔ r.isOk) := by
  induction work generalizing asked with
  | nil =>
      refine .inr ⟨[], ?_⟩
      cases h with
      | refused _ _ => exact ⟨_, rfl, .done, by simp [Except.isOk, Except.toBool]⟩
      | served _ result h =>
          cases h
          exact ⟨_, rfl, .done, by simp [Except.isOk, Except.toBool]⟩
  | cons s work ih =>
      cases h with
      | refused _ h => exact .inl ⟨_, rfl, .refused work h⟩
      | served _ result h =>
          rcases ih h with ⟨e, rfl, h'⟩ | ⟨before, r, rfl, h', hok⟩
          · exact .inl ⟨e, rfl, .served s result h'⟩
          · exact .inr ⟨(s, .ok result) :: before, r, rfl, .served s result h', hok⟩

variable (h : InTurn (work ++ [.commit]) asked refusal) (hwork : .commit ∉ work)

include h hwork

theorem commit_asked_iff :
    (∃ r, (Statement.commit, r) ∈ asked) ↔ ∀ x ∈ asked, x.1 ≠ .commit → x.2.isOk := by
  rcases h.commit_cases with ⟨e, rfl, h'⟩ | ⟨before, r, rfl, h', -⟩
  · have hnone : ∀ x ∈ asked, x.1 ≠ .commit := fun x hx heq => hwork (heq ▸ h'.mem_plan hx)
    refine ⟨fun ⟨r, hr⟩ => absurd rfl (hnone _ hr), fun hok => ?_⟩
    exact absurd (h'.eq_none_iff.2 fun x hx => hok x hx (hnone x hx)) (by simp)
  · refine ⟨fun _ x hx hne => ?_, fun _ => ⟨r, by simp⟩⟩
    rcases List.mem_append.1 hx with hx | hx
    · exact h'.eq_none_iff.1 rfl x hx
    · exact absurd (congrArg Prod.fst (List.mem_singleton.1 hx)) hne

theorem commit_last {before after : List (Statement × Reply)} {r : Reply}
    (hasked : asked = before ++ (.commit, r) :: after) : after = [] := by
  rcases h.commit_cases with ⟨e, -, h'⟩ | ⟨work', r', rfl, h', -⟩
  · exact absurd (h'.mem_plan (hasked ▸ List.mem_append_right before List.mem_cons_self)) hwork
  · rcases List.eq_nil_or_concat after with rfl | ⟨after', x, rfl⟩
    · rfl
    · have hsame : work' ++ [(.commit, r')] = (before ++ (.commit, r) :: after') ++ [x] := by
        simpa using hasked
      have hmem : (.commit, r) ∈ work' :=
        (List.append_inj' hsame rfl).1 ▸ List.mem_append_right before List.mem_cons_self
      exact absurd (h'.mem_plan hmem) hwork

theorem acknowledged_iff : (∃ result, (Statement.commit, .ok result) ∈ asked) ↔ refusal = none := by
  rcases h.commit_cases with ⟨e, rfl, h'⟩ | ⟨before, r, rfl, h', hok⟩
  · exact ⟨fun ⟨_, hr⟩ => absurd (h'.mem_plan hr) hwork, fun hnone => nomatch hnone⟩
  · rw [hok]
    constructor
    · rintro ⟨result, hr⟩
      rcases List.mem_append.1 hr with hr | hr
      · exact absurd (h'.mem_plan hr) hwork
      · cases List.mem_singleton.1 hr
        rfl
    · cases r with
      | error e => exact fun hr => nomatch hr
      | ok result => exact fun _ => ⟨result, by simp⟩

end InTurn

/-- What a piece of work says over the line, and what comes of it. -/
structure Course (α : Type) where
  asked : List (Statement × Reply)
  left : List Statement
  result : Except StoreError α

def Course.after {α : Type} (c : Course α) (line : List Exchange) : Except StoreError α × List Exchange :=
  (c.result, line ++ c.asked.map (fun x => .asked x.1 x.2) ++ c.left.map .left)

theorem after_asked {α : Type} (s : Statement) (r : Reply) (result : Except StoreError α) (line : List Exchange) :
    Course.after ⟨[(s, r)], [], result⟩ line = (result, line ++ [.asked s r]) := by
  simp [Course.after]

def verdict : Option StoreError → Except StoreError Unit
  | none => .ok ()
  | some e => .error e

/-- A session that asks the statements of a plan in turn, and leaves none behind. -/
def Asks (p : Peer) (plan : List Statement) (y : Session Unit) : Prop :=
  ∀ line, ∃ asked refusal, InTurn plan asked refusal ∧ p.run y line = Course.after ⟨asked, [], verdict refusal⟩ line

variable {p : Peer} {plan work : List Statement} {y : Session Unit}

theorem asks_pure : Asks p [] (pure ()) := fun line =>
  ⟨[], none, .done, by simp [Course.after, verdict, Peer.run_pure]⟩

theorem Asks.bind {z : Unit → Session Unit} (hy : Asks p work y) (hz : Asks p plan (z ())) :
    Asks p (work ++ plan) (y >>= z) := by
  intro line
  obtain ⟨asked, refusal, hturn, hrun⟩ := hy line
  cases refusal with
  | some e => exact ⟨asked, some e, hturn.cut plan, by rw [Peer.run_bind, hrun]; rfl⟩
  | none =>
      obtain ⟨asked', refusal, hturn', hrun'⟩ := hz (line ++ asked.map fun x => .asked x.1 x.2)
      refine ⟨asked ++ asked', refusal, hturn.append hturn', ?_⟩
      rw [Peer.run_bind, hrun]
      simpa [Course.after, verdict] using hrun'

theorem asks_send (operation : String) {s : Statement} (hs : ∀ r, s ≠ .insert r) :
    Asks p [s] (do let _ ← Session.send operation s) := by
  intro line
  rw [Peer.run_bind]
  cases hreply : p line s with
  | ok result =>
      rw [Peer.run_send_ok operation hreply]
      exact ⟨_, none, .served s result .done, (after_asked s _ _ line).symm⟩
  | error e =>
      have hblames : Blames s e (e.toStoreError operation) := .failed operation fun r _ heq => absurd heq (hs r)
      rw [Peer.run_send_error operation hreply]
      exact ⟨_, _, .refused [] hblames, (after_asked s _ _ line).symm⟩

theorem asks_start : Asks p [.beginTransaction] Session.start :=
  asks_send "begin_transaction" fun _ => Statement.noConfusion

theorem asks_insert (r : Row) : Asks p [.insert r] (insert r) := by
  intro line
  rw [insert, Peer.run_bind, Peer.run_ask]
  cases p line (.insert r) with
  | ok result => exact ⟨_, none, .served _ result .done, (after_asked _ _ _ line).symm⟩
  | error e =>
      by_cases htaken : ∃ message, e = .database uniqueViolation message
      · obtain ⟨message, rfl⟩ := htaken
        refine ⟨_, _, .refused [] (.taken r message), ?_⟩
        simp only [if_true]
        exact (after_asked _ _ _ line).symm
      · have hblames : Blames (.insert r) e (e.toStoreError "insert_outbox_row") :=
          .failed _ fun _ message _ heq => htaken ⟨message, heq⟩
        refine ⟨_, _, .refused [] hblames, ?_⟩
        cases e with
        | database code message =>
            have hcode : code ≠ uniqueViolation := fun heq => htaken ⟨message, heq ▸ rfl⟩
            simp only [if_neg hcode]
            exact (after_asked _ _ _ line).symm
        | closed | notOpened | noRow => exact (after_asked _ _ _ line).symm

theorem asks_insertAll (rows : List Row) : Asks p (rows.map .insert) (insertAll rows) := by
  induction rows with
  | nil => exact asks_pure
  | cons r rows ih => exact (asks_insert r).bind ih

/-- A session that asks a plan in a transaction. A ROLLBACK is left behind if a statement is refused while there is
one, be it because there was one before or because BEGIN was served. -/
def Transacts (p : Peer) (wasOpen : Bool) (plan : List Statement) (y : Session Unit) : Prop :=
  ∀ line, ∃ asked left refusal, InTurn plan asked refusal ∧
    p.run y line = Course.after ⟨asked, left, verdict refusal⟩ line ∧ (left = [] ∨ left = [.rollback]) ∧
    (.rollback ∈ left ↔
      (wasOpen = true ∨ ∃ result, (Statement.beginTransaction, .ok result) ∈ asked) ∧ refusal ≠ none)

theorem Asks.orAbandon (h : Asks p plan y) : Transacts p true plan (Session.orAbandon y) := by
  intro line
  obtain ⟨asked, refusal, hturn, hrun⟩ := h line
  cases refusal with
  | none => exact ⟨asked, [], none, hturn, by rw [Peer.run_orAbandon, hrun]; rfl, .inl rfl, by simp⟩
  | some e =>
      refine ⟨asked, [.rollback], some e, hturn, ?_, .inr rfl, by simp⟩
      rw [Peer.run_orAbandon, hrun]
      simp [Course.after, verdict]

theorem Asks.begun (h : Asks p plan y) :
    Transacts p false (.beginTransaction :: plan) (do Session.start; Session.orAbandon y) := by
  intro line
  obtain ⟨asked, refusal, hturn, hstart⟩ := asks_start (p := p) line
  cases hturn with
  | refused _ hblames =>
      refine ⟨_, [], _, .refused plan hblames, ?_, .inl rfl, by simp⟩
      rw [Peer.run_bind, hstart]
      rfl
  | served _ result hturn =>
      cases hturn
      obtain ⟨asked', left, refusal, hturn', hrun, hleft, hrollback⟩ :=
        h.orAbandon (line ++ [.asked .beginTransaction (.ok result)])
      refine ⟨_, left, refusal, .served .beginTransaction result hturn', ?_, hleft, ?_⟩
      · rw [Peer.run_bind, hstart]
        simpa [Course.after, verdict] using hrun
      · simpa using hrollback

/-- A transaction that is over: nothing is asked after COMMIT, and where COMMIT was not acknowledged a transaction
that was open is left to a ROLLBACK. An error is told only of those. -/
structure Course.IsOver {α : Type} (c : Course α) (wasOpen : Bool) : Prop where
  commit_last : ∀ before r after, c.asked = before ++ (.commit, r) :: after → after = []
  left_eq : c.left = [] ∨ c.left = [.rollback]
  rollback_iff : .rollback ∈ c.left ↔
    (wasOpen = true ∨ ∃ result, (.beginTransaction, .ok result) ∈ c.asked) ∧ ∀ result, (.commit, .ok result) ∉ c.asked
  uncommitted : ∀ e, c.result = .error e → ∀ result, (.commit, .ok result) ∉ c.asked

theorem InTurn.isOver {α : Type} {c : Course α} {wasOpen : Bool} {refusal : Option StoreError}
    (hturn : InTurn (work ++ [.commit]) c.asked refusal) (hwork : .commit ∉ work)
    (hleft : c.left = [] ∨ c.left = [.rollback])
    (hrollback : .rollback ∈ c.left ↔
      (wasOpen = true ∨ ∃ result, (.beginTransaction, .ok result) ∈ c.asked) ∧ refusal ≠ none)
    (hresult : ∀ e, c.result = .error e → refusal ≠ none) : c.IsOver wasOpen := by
  have hack : (∀ result, (Statement.commit, .ok result) ∉ c.asked) ↔ refusal ≠ none := by
    rw [ne_eq, ← hturn.acknowledged_iff hwork, not_exists]
  exact ⟨fun _ _ _ => hturn.commit_last hwork, hleft, hrollback.trans (by rw [hack]), fun e he => hack.2 (hresult e he)⟩

/-- Rows that are inserted in a transaction, after the statements that open it and before the COMMIT that ends it. -/
structure Course.Inserts (c : Course Unit) (opening : List Statement) (rows : List Row) : Prop where
  inTurn : ∃ refusal, InTurn (opening ++ rows.map .insert ++ [.commit]) c.asked refusal ∧ c.result = verdict refusal
  commit_asked_iff : (∃ r, (.commit, r) ∈ c.asked) ↔ ∀ x ∈ c.asked, x.1 ≠ .commit → x.2.isOk
  ok_iff : c.result = .ok () ↔ ∃ result, (.commit, .ok result) ∈ c.asked
  refused : ∀ r e, (.insert r, .error e) ∈ c.asked →
    (c.result = .error (.alreadyExists r.id) ↔ ∃ message, e = .database uniqueViolation message) ∧
    (c.result = .error (.alreadyExists r.id) ∨ ∃ text, c.result = .error (.storage text))
  alreadyExists : ∀ id, c.result = .error (.alreadyExists id) →
    ∃ r message, r.id = id ∧ (.insert r, .error (.database uniqueViolation message)) ∈ c.asked

theorem Transacts.inserts {wasOpen : Bool} {opening : List Statement} {rows : List Row}
    (h : Transacts p wasOpen (opening ++ rows.map .insert ++ [.commit]) y) (hopening : .commit ∉ opening)
    (line : List Exchange) :
    ∃ c : Course Unit, c.Inserts opening rows ∧ c.IsOver wasOpen ∧ p.run y line = c.after line := by
  obtain ⟨asked, left, refusal, hturn, hrun, hleft, hrollback⟩ := h line
  have hwork : .commit ∉ opening ++ rows.map Statement.insert := by simp [hopening]
  have hverdict : verdict refusal = .ok () ↔ refusal = none := by cases refusal <;> simp [verdict]
  refine ⟨⟨asked, left, verdict refusal⟩, ?inserts, ?ended, hrun⟩
  case ended => exact hturn.isOver hwork hleft hrollback fun e he hnone => by simp [hnone, verdict] at he
  case inserts =>
    refine ⟨⟨refusal, hturn, rfl⟩, hturn.commit_asked_iff hwork, ?_, ?_, ?_⟩
    · exact hverdict.trans (hturn.acknowledged_iff hwork).symm
    · intro r e hmem
      obtain ⟨error, rfl, hblames⟩ := hturn.blames hmem
      simpa [verdict] using hblames.insert
    · intro id hid
      obtain rfl : refusal = some (.alreadyExists id) := by
        cases refusal with
        | none => cases hid
        | some error => simpa [verdict] using hid
      obtain ⟨s, e, hmem, hblames⟩ := hturn.exists_blamed
      obtain ⟨r, message, rfl, rfl, hr⟩ := hblames.alreadyExists
      exact ⟨r, message, hr, hmem⟩

end Outbox.Postgres
