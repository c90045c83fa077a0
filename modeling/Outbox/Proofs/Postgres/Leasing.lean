import Outbox.Proofs.Postgres.Limit
import Outbox.Proofs.Postgres.Tuple
import Outbox.Proofs.Store.Order

namespace Outbox.Postgres

namespace Store

/-- An update that leases a row if it can still be leased, with the reply to it. -/
structure Try where
  id : EventId
  reply : Reply

namespace Try

def exchange (worker : String) (expiry now : Time) (t : Try) : Exchange :=
  .asked (.lease t.id worker expiry now) t.reply

/-- The row that was leased, or none if another worker was faster, or why neither can be told. -/
def leased? (t : Try) : Except StoreError (Option Row) :=
  match t.reply with
  | .error e => .error (e.toStoreError "lease_row")
  | .ok result =>
    match result.records.head? with
    | none => .ok none
    | some record => record.toRow.map some

def row? (t : Try) : Option Row :=
  match t.leased? with
  | .ok row? => row?
  | .error _ => none

theorem row?_of_leased? {t : Try} {x : Option Row} (h : t.leased? = .ok x) : t.row? = x := by
  rw [row?, h]

end Try

def rowsOf (tries : List Try) : List Row := tries.filterMap Try.row?

theorem rowsOf_cons {t : Try} {x : Option Row} (h : t.leased? = .ok x) (tries : List Try) :
    rowsOf (t :: tries) = x.toList ++ rowsOf tries := by
  rw [rowsOf, List.filterMap_cons, t.row?_of_leased? h]
  cases x <;> rfl

def readId (candidate : Record) : Except StoreError Uuid := readColumn "id" (candidate.id.read "id")

variable {take : Nat} {candidates : List Record} {leased rows : List Row} {tries before after : List Try} {t : Try}
  {e : StoreError} {result : Except StoreError (List Row)}

/-- Candidates are tried one after another until enough rows are leased, something fails, or none is left. -/
inductive Round (take : Nat) : List Record → List Row → List Try → Except StoreError (List Row) → Prop
  | full {candidates : List Record} {leased : List Row} (h : take ≤ leased.length) :
      Round take candidates leased [] (.ok leased)
  | last {leased : List Row} : Round take [] leased [] (.ok leased)
  | unreadable {c : Record} {cs : List Record} {leased : List Row} {e : StoreError} (hroom : leased.length < take)
      (hc : readId c = .error e) : Round take (c :: cs) leased [] (.error e)
  | failed {c : Record} {cs : List Record} {leased : List Row} {t : Try} {e : StoreError} (hroom : leased.length < take)
      (hc : readId c = .ok t.id.uuid) (ht : t.leased? = .error e) : Round take (c :: cs) leased [t] (.error e)
  | tried {c : Record} {cs : List Record} {leased : List Row} {t : Try} {x : Option Row} {tries : List Try}
      {result : Except StoreError (List Row)} (hroom : leased.length < take) (hc : readId c = .ok t.id.uuid)
      (ht : t.leased? = .ok x) (h : Round take cs (leased ++ x.toList) tries result) :
      Round take (c :: cs) leased (t :: tries) result

namespace Round

theorem inOrder (h : Round take candidates leased tries result) :
    List.Forall₂ (fun c t => readId c = .ok t.id.uuid) (candidates.take tries.length) tries := by
  induction h with
  | full | last | unreadable => exact .nil
  | failed hroom hc ht => exact .cons hc .nil
  | tried hroom hc ht h ih => exact .cons hc ih

theorem underway (h : Round take candidates leased tries result) (hsplit : tries = before ++ t :: after) :
    (∀ q ∈ before, ∃ x, q.leased? = .ok x) ∧ (leased ++ rowsOf before).length < take := by
  induction h generalizing before with
  | full | last | unreadable => simp at hsplit
  | @failed c cs leased q e hroom hc ht =>
      cases before with
      | nil => exact ⟨nofun, by simpa [rowsOf] using hroom⟩
      | cons p before => simp at hsplit
  | @tried c cs leased q x tries result hroom hc ht h ih =>
      cases before with
      | nil => exact ⟨nofun, by simpa [rowsOf] using hroom⟩
      | cons p before =>
          obtain ⟨rfl, hrest⟩ := List.cons.inj hsplit
          obtain ⟨hok, hlt⟩ := ih hrest
          rw [rowsOf_cons ht, ← List.append_assoc]
          exact ⟨List.forall_mem_cons.2 ⟨⟨x, ht⟩, hok⟩, hlt⟩

theorem granted (h : Round take candidates leased tries result) (hresult : result = .ok rows) :
    (∀ q ∈ tries, ∃ x, q.leased? = .ok x) ∧ rows = leased ++ rowsOf tries ∧
      (rows.length < take → tries.length = candidates.length) := by
  induction h with
  | full hfull =>
      cases hresult
      exact ⟨nofun, (List.append_nil _).symm, fun hlt => absurd hfull (Nat.not_le.2 hlt)⟩
  | last =>
      cases hresult
      exact ⟨nofun, (List.append_nil _).symm, fun _ => rfl⟩
  | unreadable | failed => cases hresult
  | @tried c cs leased q x tries result hroom hc ht h ih =>
      obtain ⟨hok, hrows, hall⟩ := ih hresult
      refine ⟨List.forall_mem_cons.2 ⟨⟨x, ht⟩, hok⟩, ?_, fun hlt => congrArg (· + 1) (hall hlt)⟩
      rw [rowsOf_cons ht, ← List.append_assoc]
      exact hrows

theorem length_le (h : Round take candidates leased tries result) (hleased : leased.length ≤ take)
    (hresult : result = .ok rows) : rows.length ≤ take := by
  induction h with
  | full | last =>
      cases hresult
      exact hleased
  | unreadable | failed => cases hresult
  | @tried c cs leased q x tries result hroom hc ht h ih =>
      refine ih ?_ hresult
      cases x with
      | none => simpa using hleased
      | some r => simpa using Nat.succ_le_of_lt hroom

theorem refused (h : Round take candidates leased tries result) (hresult : result = .error e) :
    (∃ before t, tries = before ++ [t] ∧ t.leased? = .error e) ∨
      ∃ c, candidates[tries.length]? = some c ∧ readId c = .error e := by
  induction h with
  | full | last => cases hresult
  | unreadable hroom hc =>
      cases hresult
      exact .inr ⟨_, rfl, hc⟩
  | failed hroom hc ht =>
      cases hresult
      exact .inl ⟨[], _, rfl, ht⟩
  | @tried c cs leased q x tries result hroom hc ht h ih =>
      rcases ih hresult with ⟨before, t, rfl, hfail⟩ | hnext
      · exact .inl ⟨q :: before, t, rfl, hfail⟩
      · exact .inr hnext

end Round

/-- A round as the server sees it, and what it comes to. The tries are for the first candidates in their order. All but
the last have been told which row was leased, if any, and before each of them fewer rows than wanted were leased. If the
round succeeds then this holds of the last try too, and its rows are those that were leased, oldest first. If it fails
then because of the last try, or of the candidate after it. -/
structure Leases (take : Nat) (candidates : List Record) (tries : List Try) (result : Except Interruption (List Row)) :
    Prop where
  inOrder : List.Forall₂ (fun c t => readId c = .ok t.id.uuid) (candidates.take tries.length) tries
  underway : ∀ before t after, tries = before ++ t :: after →
    (∀ q ∈ before, ∃ x, q.leased? = .ok x) ∧ (rowsOf before).length < take
  granted : ∀ rows, result = .ok rows → (∀ t ∈ tries, ∃ x, t.leased? = .ok x) ∧ rows.Perm (rowsOf tries) ∧
    rows.Pairwise (Row.precedes · ·) ∧ rows.length ≤ take ∧ (rows.length < take → tries.length = candidates.length)
  refused : ∀ interruption, result = .error interruption → ∃ e, interruption = .refused e ∧
    ((∃ before t, tries = before ++ [t] ∧ t.leased? = .error e) ∨
      ∃ c, candidates[tries.length]? = some c ∧ readId c = .error e)

def ordered (result : Except StoreError (List Row)) : Except Interruption (List Row) :=
  (result.map (·.mergeSort Row.precedes)).mapError .refused

theorem ordered_eq_ok (h : ordered result = .ok rows) :
    ∃ leased, result = .ok leased ∧ rows.Perm leased ∧ rows.Pairwise (Row.precedes · ·) := by
  cases result with
  | error e => cases h
  | ok leased =>
      cases h
      exact ⟨leased, rfl, List.mergeSort_perm .., (isOrder_precedes fun _ => true).pairwise leased⟩

theorem ordered_eq_error {interruption : Interruption} (h : ordered result = .error interruption) :
    ∃ e, interruption = .refused e ∧ result = .error e := by
  cases result with
  | error e =>
      cases h
      exact ⟨e, rfl, rfl⟩
  | ok leased => cases h

theorem Round.leases (h : Round take candidates [] tries result) : Leases take candidates tries (ordered result) where
  inOrder := h.inOrder
  underway before t after := h.underway
  granted rows hrows := by
    obtain ⟨leased, hleased, hperm, hsorted⟩ := ordered_eq_ok hrows
    obtain ⟨hok, rfl, hall⟩ := h.granted hleased
    rw [hperm.length_eq]
    exact ⟨hok, hperm, hsorted, h.length_le (Nat.zero_le _) hleased, hall⟩
  refused interruption hrefused := by
    obtain ⟨e, hinterruption, he⟩ := ordered_eq_error hrefused
    exact ⟨e, hinterruption, h.refused he⟩

/-- All rows of a reply, oldest first; or an error, if one of them cannot be read. -/
structure Returns (records : List Record) (result : Except Interruption (List Row)) : Prop where
  granted : ∀ rows, result = .ok rows → rows.Pairwise (Row.precedes · ·) ∧
    ∃ replied, List.Forall₂ (fun record r => record.toRow = .ok r) records replied ∧ rows.Perm replied
  refused : ∀ interruption, result = .error interruption →
    ∃ record ∈ records, ∃ e, record.toRow = .error e ∧ interruption = .refused e

theorem mapM_toRow_ok {records : List Record} (h : records.mapM Record.toRow = .ok rows) :
    List.Forall₂ (fun record r => record.toRow = .ok r) records rows := by
  induction records generalizing rows with
  | nil =>
      cases h
      exact .nil
  | cons record records ih =>
      rw [List.mapM_cons] at h
      cases hrow : record.toRow with
      | error e =>
          rw [hrow] at h
          cases h
      | ok r =>
          cases hrest : records.mapM Record.toRow with
          | error e =>
              rw [hrow, hrest] at h
              cases h
          | ok rest =>
              rw [hrow, hrest] at h
              cases h
              exact .cons hrow (ih hrest)

theorem mapM_toRow_error {records : List Record} (h : records.mapM Record.toRow = .error e) :
    ∃ record ∈ records, record.toRow = .error e := by
  induction records with
  | nil => cases h
  | cons record records ih =>
      rw [List.mapM_cons] at h
      cases hrow : record.toRow with
      | error e' =>
          rw [hrow] at h
          cases h
          exact ⟨record, List.mem_cons_self .., hrow⟩
      | ok r =>
          cases hrest : records.mapM Record.toRow with
          | error e' =>
              rw [hrow, hrest] at h
              cases h
              obtain ⟨q, hq, he⟩ := ih hrest
              exact ⟨q, List.mem_cons_of_mem _ hq, he⟩
          | ok rest =>
              rw [hrow, hrest] at h
              cases h

theorem returns_mapM (records : List Record) : Returns records (ordered (records.mapM Record.toRow)) where
  granted rows hrows := by
    obtain ⟨replied, hreplied, hperm, hsorted⟩ := ordered_eq_ok hrows
    exact ⟨hsorted, replied, mapM_toRow_ok hreplied, hperm⟩
  refused interruption hrefused := by
    obtain ⟨e, hinterruption, he⟩ := ordered_eq_error hrefused
    obtain ⟨record, hrecord, hrow⟩ := mapM_toRow_error he
    exact ⟨record, hrecord, e, hrow, hinterruption⟩

end Store

namespace Peer

open Postgres.Store

variable (p : Peer) (take : Nat) (worker : String) (expiry now : Time) (lease : Duration)

theorem run_leaseEach_cons {c : Record} {cs : List Record} {leased : List Row} {line : List Exchange} (t : Try)
    (hroom : leased.length < take) (hc : readId c = .ok t.id.uuid)
    (hreply : p line (.lease t.id worker expiry now) = t.reply) :
    p.run (leaseEach take worker expiry now (c :: cs) leased) line = match t.leased? with
      | .error e => (.error e, line ++ [t.exchange worker expiry now])
      | .ok x =>
        p.run (leaseEach take worker expiry now cs (leased ++ x.toList)) (line ++ [t.exchange worker expiry now]) := by
  obtain ⟨⟨id⟩, reply⟩ := t
  have hread : readColumn "id" (c.id.read "id") = .ok id := hc
  rw [leaseEach, if_neg (Nat.not_le.2 hroom), run_bind, run_ofExcept, hread]
  dsimp only
  rw [run_bind]
  cases reply with
  | error failure =>
      rw [run_send_error _ hreply]
      rfl
  | ok result =>
      rw [run_send_ok _ hreply]
      dsimp only [Try.leased?]
      cases result.records.head? with
      | none =>
          have hnone : leased ++ (none : Option Row).toList = leased := List.append_nil leased
          dsimp only
          rw [hnone]
          rfl
      | some record =>
          dsimp only
          rw [run_bind, run_ofExcept]
          cases record.toRow <;> rfl

theorem round_leaseEach (candidates : List Record) (leased : List Row) (line : List Exchange) : ∃ tries,
    (p.run (leaseEach take worker expiry now candidates leased) line).2 =
        line ++ tries.map (Try.exchange worker expiry now) ∧
      Round take candidates leased tries (p.run (leaseEach take worker expiry now candidates leased) line).1 := by
  -- A try adds to the rows that are leased and to the line, so the induction is for all of both.
  induction candidates generalizing leased line with
  | nil => exact ⟨[], (List.append_nil line).symm, .last⟩
  | cons c cs ih =>
      by_cases hfull : take ≤ leased.length
      · rw [leaseEach, if_pos hfull]
        exact ⟨[], (List.append_nil line).symm, .full hfull⟩
      · have hroom := Nat.lt_of_not_le hfull
        cases hc : readId c with
        | error e =>
            have hread : readColumn "id" (c.id.read "id") = .error e := hc
            rw [leaseEach, if_neg hfull, run_bind, run_ofExcept, hread]
            exact ⟨[], (List.append_nil line).symm, .unreadable hroom hc⟩
        | ok id =>
            let t : Try := ⟨⟨id⟩, p line (.lease ⟨id⟩ worker expiry now)⟩
            rw [p.run_leaseEach_cons take worker expiry now t hroom hc rfl]
            cases ht : t.leased? with
            | error e => exact ⟨[t], rfl, .failed hroom hc ht⟩
            | ok x =>
                obtain ⟨tries, hline, hround⟩ := ih (leased ++ x.toList) (line ++ [t.exchange worker expiry now])
                refine ⟨t :: tries, hline.trans ?_, .tried hroom hc ht hround⟩
                rw [List.append_assoc]
                rfl

variable {take worker expiry now lease} {line : List Exchange}

theorem run_claim_invalid (strategy : ClaimStrategy) {e : StoreError} (h : leaseExpiry now lease = .error e) :
    p.run (claim strategy take worker lease now) line = (.error (.refused e), line) := by
  rw [run_claim, claimBy, run_bind, run_ofSession, run_ofExcept, h]
  rfl

theorem run_claim_zero (strategy : ClaimStrategy) (h : leaseExpiry now lease = .ok expiry) :
    p.run (claim strategy 0 worker lease now) line = (.ok [], line) := by
  rw [run_claim, claimBy, run_bind, run_ofSession, run_ofExcept, h]
  rfl

theorem run_ordered {x : Claim (List Row)} {rows : Except StoreError (List Row)} {after : List Exchange}
    (h : p.run x line = (rows.mapError .refused, after)) :
    p.run (x >>= fun rows => pure (rows.mergeSort Row.precedes)) line = (ordered rows, after) := by
  rw [run_bind, h]
  cases rows <;> rfl

theorem run_claim_perRow {rows : Except StoreError (List Row)} {after : List Exchange}
    (hexpiry : leaseExpiry now lease = .ok expiry) (htake : take ≠ 0)
    (h : p.run (claimEach take worker expiry now) line = (rows.mapError .refused, after)) :
    p.run (claim .perRow take worker lease now) line = (ordered rows, after) := by
  rw [run_claim, claimBy, run_bind, run_ofSession, run_ofExcept, hexpiry]
  dsimp only [Except.mapError]
  rw [if_neg htake]
  exact p.run_ordered h

theorem run_claim_setBased (hexpiry : leaseExpiry now lease = .ok expiry) (htake : take ≠ 0) :
    p.run (claim .setBased take worker lease now) line =
      (ordered (p.run (claimTogether take worker expiry now) line).1,
        (p.run (claimTogether take worker expiry now) line).2) := by
  rw [run_claim, claimBy, run_bind, run_ofSession, run_ofExcept, hexpiry]
  dsimp only [Except.mapError]
  rw [if_neg htake]
  exact p.run_ordered (p.run_ofSession _ line)

theorem run_claimEach_error {failure : Failure}
    (h : p line (.selectCandidates now (candidateLimit take)) = .error failure) :
    p.run (claimEach take worker expiry now) line =
      ((Except.error (failure.toStoreError "select_claim_candidates") : Except StoreError (List Row)).mapError .refused,
        line ++ [.asked (.selectCandidates now (candidateLimit take)) (.error failure)]) := by
  rw [claimEach, run_bind, run_ofSession, run_send_error _ h]
  rfl

theorem run_claimEach_ok (hmemory : take * rowBytes ≤ memoryLimit) {result : Result}
    (h : p line (.selectCandidates now (candidateLimit take)) = .ok result) :
    let asked := line ++ [.asked (.selectCandidates now (candidateLimit take)) (.ok result)]
    let leasing := p.run (leaseEach take worker expiry now result.records []) asked
    p.run (claimEach take worker expiry now) line = (leasing.1.mapError .refused, leasing.2) := by
  intro asked leasing
  rw [claimEach, run_bind, run_ofSession, run_send_ok _ h]
  show p.run (if memoryLimit < take * rowBytes then _ else _) asked = _
  rw [if_neg (Nat.not_lt.2 hmemory), run_ofSession]

theorem run_claimTogether_error {failure : Failure} (h : p line (.leaseBatch worker expiry now take) = .error failure) :
    p.run (claimTogether take worker expiry now) line = (.error (failure.toStoreError "claim_set_based"),
      line ++ [.asked (.leaseBatch worker expiry now take) (.error failure)]) := by
  rw [claimTogether, run_bind, run_send_error _ h]

theorem run_claimTogether_ok {result : Result} (h : p line (.leaseBatch worker expiry now take) = .ok result) :
    p.run (claimTogether take worker expiry now) line =
      (result.records.mapM Record.toRow, line ++ [.asked (.leaseBatch worker expiry now take) (.ok result)]) := by
  rw [claimTogether, run_bind, run_send_ok _ h]
  rfl

end Peer

namespace Store

variable {p : Peer} {line : List Exchange} {worker : String} {expiry now : Time} {lease : Duration} {records : Result}

theorem leases_claim (hexpiry : leaseExpiry now lease = .ok expiry) (htake : take ≠ 0)
    (hmemory : take * rowBytes ≤ memoryLimit)
    (hselect : p line (.selectCandidates now (candidateLimit take)) = .ok records) :
    let claimed := p.run (claim .perRow take worker lease now) line
    ∃ tries, claimed.2 = line ++ .asked (.selectCandidates now (candidateLimit take)) (.ok records) ::
        tries.map (Try.exchange worker expiry now) ∧
      Leases take records.records tries claimed.1 := by
  intro claimed
  let asked := line ++ [.asked (.selectCandidates now (candidateLimit take)) (.ok records)]
  obtain ⟨tries, hline, hround⟩ := p.round_leaseEach take worker expiry now records.records [] asked
  have hclaimed : claimed = _ := p.run_claim_perRow hexpiry htake (p.run_claimEach_ok hmemory hselect)
  refine ⟨tries, ?_, ?_⟩
  · rw [hclaimed, hline, List.append_assoc]
    rfl
  · rw [hclaimed]
    exact hround.leases

theorem returns_claim (hexpiry : leaseExpiry now lease = .ok expiry) (htake : take ≠ 0)
    (hupdate : p line (.leaseBatch worker expiry now take) = .ok records) :
    let claimed := p.run (claim .setBased take worker lease now) line
    claimed.2 = line ++ [.asked (.leaseBatch worker expiry now take) (.ok records)] ∧
      Returns records.records claimed.1 := by
  intro claimed
  have hclaimed : claimed = _ := p.run_claim_setBased hexpiry htake
  rw [p.run_claimTogether_ok hupdate] at hclaimed
  rw [hclaimed]
  exact ⟨rfl, returns_mapM records.records⟩

/-- Nothing is sent for a lease that is invalid, or for no rows. Candidates are otherwise selected and leased one after
another, and all that the server leased is returned, or else the whole batch is leased at once, and all of it is
returned. -/
theorem claim_loses_nothing (p : Peer) (take : Nat) (worker : String) (lease : Duration) (now : Time)
    (line : List Exchange) :
    let claimed := fun strategy => p.run (claim strategy take worker lease now) line
    (∀ e, leaseExpiry now lease = .error e → ∀ strategy, claimed strategy = (.error (.refused e), line)) ∧
    ∀ expiry, leaseExpiry now lease = .ok expiry →
      (take = 0 → ∀ strategy, claimed strategy = (.ok [], line)) ∧
      (take ≠ 0 →
        let select := Statement.selectCandidates now (candidateLimit take)
        select.params = [.time now, .number (min (3 * take) largestBigint)] ∧
        (∀ failure, p line select = .error failure →
          claimed .perRow = (.error (.refused (failure.toStoreError "select_claim_candidates")),
            line ++ [.asked select (.error failure)])) ∧
        ∀ result, p line select = .ok result → take * rowBytes ≤ memoryLimit → ∃ tries,
          (claimed .perRow).2 = line ++ .asked select (.ok result) :: tries.map (Try.exchange worker expiry now) ∧
            Leases take result.records tries (claimed .perRow).1) ∧
      (take ≠ 0 →
        let update := Statement.leaseBatch worker expiry now take
        update.params = [.text worker, .time expiry, .time now, .number (min take largestBigint)] ∧
        (∀ failure, p line update = .error failure →
          claimed .setBased = (.error (.refused (failure.toStoreError "claim_set_based")),
            line ++ [.asked update (.error failure)])) ∧
        ∀ result, p line update = .ok result →
          (claimed .setBased).2 = line ++ [.asked update (.ok result)] ∧
            Returns result.records (claimed .setBased).1) := by
  intro claimed
  refine ⟨fun e h strategy => p.run_claim_invalid strategy h, fun expiry hexpiry => ⟨?_, ?_, ?_⟩⟩
  · rintro rfl strategy
    exact p.run_claim_zero strategy hexpiry
  · intro htake select
    refine ⟨?_, fun failure h => p.run_claim_perRow hexpiry htake (p.run_claimEach_error h), fun result h hmemory => ?_⟩
    · have hlimit : min (candidateLimit take) largestBigint = min (3 * take) largestBigint := by
        simp only [candidateLimit, overfetch, largestWord, largestBigint]
        omega
      exact congrArg (fun n => [Param.time now, .number n]) hlimit
    · exact leases_claim hexpiry htake hmemory h
  · intro htake update
    refine ⟨rfl, fun failure h => ?_, fun result h => returns_claim hexpiry htake h⟩
    have hclaimed : claimed .setBased = _ := p.run_claim_setBased hexpiry htake
    rw [hclaimed, p.run_claimTogether_error h]
    rfl

def contended : Peer := fun _ s =>
  match s with
  | .selectCandidates .. => .ok ⟨[7, 8, 9].map fun n => Sql.record [.id] (Sql.ofRow (Row.sample n)), 3⟩
  | .lease id worker expiry _ =>
    .ok ⟨if id = (Row.sample 7).id then []
      else [Sql.record Sql.Field.all (Sql.ofRow ({ Row.sample 0 with id }.leasedTo worker expiry))], 1⟩
  | .leaseBatch worker expiry .. =>
    .ok ⟨[9, 8].map fun n => Sql.record Sql.Field.all (Sql.ofRow ((Row.sample n).leasedTo worker expiry)), 2⟩
  | _ => .error .closed

theorem claim_loses_nothing_contended :
    let lease := Duration.ofSeconds 30
    let expiry := Time.epoch.later 30
    let claimed := fun strategy take lease => contended.run (claim strategy take "worker" lease .epoch) []
    (claimed .perRow 1 .zero).2 = [] ∧ claimed .setBased 0 lease = (.ok [], []) ∧
      (∃ result tries, (claimed .perRow 1 lease).2 =
          .asked (.selectCandidates .epoch (candidateLimit 1)) (.ok result) ::
            tries.map (Try.exchange "worker" expiry .epoch) ∧
        tries.length = 2 ∧ Leases 1 result.records tries (claimed .perRow 1 lease).1) ∧
      (claimed .perRow 1 lease).1 = .ok [(Row.sample 8).leasedTo "worker" expiry] ∧
      ∃ result, (claimed .setBased 2 lease).2 = [.asked (.leaseBatch "worker" expiry .epoch 2) (.ok result)] ∧
        Returns result.records (claimed .setBased 2 lease).1 := by
  intro lease expiry claimed
  have hexpiry : leaseExpiry .epoch lease = .ok expiry := by decide +kernel
  let candidates : Result := ⟨[7, 8, 9].map fun n => Sql.record [.id] (Sql.ofRow (Row.sample n)), 3⟩
  have hselect : contended [] (.selectCandidates .epoch (candidateLimit 1)) = .ok candidates := rfl
  have hclaimed : claimed .perRow 1 lease = _ :=
    contended.run_claim_perRow hexpiry (by decide) (contended.run_claimEach_ok (by decide) hselect)
  obtain ⟨-, hone⟩ := claim_loses_nothing contended 1 "worker" lease .epoch []
  obtain ⟨-, hnone⟩ := claim_loses_nothing contended 0 "worker" lease .epoch []
  obtain ⟨-, htwo⟩ := claim_loses_nothing contended 2 "worker" lease .epoch []
  refine ⟨?_, (hnone expiry hexpiry).1 rfl .setBased, ?_, ?_, ?_⟩
  · exact congrArg Prod.snd ((claim_loses_nothing contended 1 "worker" .zero .epoch []).1 _ rfl .perRow)
  · obtain ⟨tries, hline, hleases⟩ := ((hone expiry hexpiry).2.1 (by decide)).2.2 candidates hselect (by decide)
    have hlength : (claimed .perRow 1 lease).2.length = 3 := by
      rw [hclaimed]
      rfl
    refine ⟨candidates, tries, hline, ?_, hleases⟩
    rw [show (claimed .perRow 1 lease).2 = _ from hline] at hlength
    simpa using hlength
  · rw [hclaimed]
    exact congrArg Except.ok (List.mergeSort_singleton _)
  · exact ⟨_, ((htwo expiry hexpiry).2.2 (by decide)).2.2 _ rfl⟩

end Store

end Outbox.Postgres
