import Outbox.Proofs.Store.Census
import Outbox.Proofs.Store.Insertion

namespace Outbox.Store

variable {s s' : Store} {scan rows : List Row} {op : Operation} {ops : List Operation} {replies : List Reply}

/-- The answer to an operation that comes upon the rows in the order of the scan. -/
def answerOver (scan : List Row) (s : Store) : Operation → Reply × Store
  | .claim take worker lease now =>
    s.reply (fun expiry =>
      let candidates := (scan.filter (·.isClaimable now)).mergeSort Row.precedes
      let batch := (candidates.take take).map (·.leasedTo worker expiry)
      (.rows batch, ⟨s.rows.insertAll batch⟩)) (leaseExpiry now lease)
  | .deadLetters limit => (.rows (((scan.filter Row.isDeadLettered).mergeSort deadLetterPrecedes).take limit), s)
  | .purge before =>
    let kept := scan.filter fun r => r.processedAt.all (before ≤ ·)
    (.count (scan.length - kept.length), ⟨Table.empty.insertAll kept⟩)
  | .stats now =>
    (.stats ⟨count scan now .pending, count scan now .leased, count scan now .retrying, count scan now .processed,
      count scan now .deadLettered⟩, s)
  | op => s.answer op

/-- Operations one after another, each of which comes upon the rows in an order of its own. -/
inductive Answers : Store → List Operation → List Reply → Store → Prop
  | nil (s : Store) : Answers s [] [] s
  | cons {s s' : Store} {scan : List Row} {op : Operation} {ops : List Operation} {replies : List Reply}
      (hscan : scan.Perm s.rows.entries) (h : Answers (s.answerOver scan op).2 ops replies s') :
      Answers s (op :: ops) ((s.answerOver scan op).1 :: replies) s'

theorem sorted_scan {le : Row → Row → Bool} {p : Row → Bool} (h : IsOrder le p) (hscan : scan.Perm s.rows.entries) :
    (scan.filter p).mergeSort le = (s.rows.entries.filter p).mergeSort le :=
  h.mergeSort_eq hscan s.nodup_ids

theorem all_scan (hscan : scan.Perm s.rows.entries) : scan.mergeSort Row.precedes = s.all := by
  have h := sorted_scan (isOrder_precedes fun _ => true) hscan
  rwa [List.filter_true, List.filter_true] at h

theorem count_scan (hscan : scan.Perm s.rows.entries) (now : Time) (st : State) :
    count scan now st = count s.rows.entries now st :=
  hscan.countP_eq _

theorem kept_scan (hscan : scan.Perm s.rows.entries) (p : Row → Bool) :
    (⟨Table.empty.insertAll (scan.filter p)⟩ : Store) = ⟨s.rows.filter p⟩ := by
  have hids : ((scan.filter p).map (·.id)).Nodup :=
    ((hscan.map (·.id)).nodup_iff.2 s.nodup_ids).sublist (List.filter_sublist.map _)
  apply ext_mem
  intro r
  have hget := get?_insertAll hids empty r.id
  rw [get?_empty, Option.or_none] at hget
  rw [mem_iff_get?, Table.filter, (hscan.filter p).symm.mem_iff]
  refine (iff_of_eq (congrArg (· = some r) hget)).trans ?_
  constructor
  · exact List.mem_of_find?_eq_some
  · exact find?_id_eq_some hids

theorem answerOver_eq (hscan : scan.Perm s.rows.entries) (op : Operation) : s.answerOver scan op = s.answer op := by
  cases op with
  | claim take worker lease now =>
      cases hexpiry : leaseExpiry now lease with
      | error e =>
          rw [answer_claim_refused s take worker hexpiry, answerOver, hexpiry]
          rfl
      | ok expiry =>
          rw [answer_claim_granted s take worker hexpiry, answerOver, hexpiry]
          simp only [reply, sorted_scan (isOrder_precedes _) hscan]
          rfl
  | deadLetters limit =>
      simp only [answerOver, sorted_scan isOrder_deadLetterPrecedes hscan]
      rfl
  | purge before =>
      simp only [answerOver, kept_scan hscan, hscan.length_eq, (hscan.filter _).length_eq]
      rfl
  | stats now =>
      simp only [answerOver, count_scan hscan]
      rfl
  | add | markProcessed | markFailed | get | requeue => rfl

theorem answers_iff : s.Answers ops replies s' ↔ replies = s.replies ops ∧ s' = s.after ops := by
  constructor
  · intro h
    induction h with
    | nil s => exact ⟨rfl, rfl⟩
    | cons hscan h ih =>
        obtain ⟨hreplies, hafter⟩ := ih
        rw [answerOver_eq hscan] at hreplies hafter ⊢
        rw [hreplies]
        exact ⟨rfl, hafter⟩
  · rintro ⟨rfl, rfl⟩
    induction ops generalizing s with
    | nil => exact .nil s
    | cons op ops ih =>
        have hanswer := answerOver_eq (List.Perm.refl s.rows.entries) op
        have h := ih (s := (s.answer op).2)
        rw [← hanswer] at h
        rw [replies, after_cons, ← hanswer]
        exact .cons (.refl _) h

/-- Rows are added all or none, and the first of them whose id is taken when its turn comes is the one that is named.
To add two lists of rows at once is to add one and then the other. Two stores that the same rows were added to, in any
order and in any batches, answer every run of operations alike, whatever the order in which these come upon the rows. -/
theorem additions_unordered (s : Store) :
    (∀ rows, ((∃ r ∈ rows, s.Collides rows r) →
        ∃ id, s.Refuses rows id ∧ s.answer (.add rows) = (.refused (.alreadyExists id), s)) ∧
      ((∀ r ∈ rows, ¬ s.Collides rows r) →
        ∃ s', s.answer (.add rows) = (.done, s') ∧ s'.rows.entries.Perm (rows ++ s.rows.entries))) ∧
    (∀ xs ys s', s.add (xs ++ ys) = .ok s' ↔ ∃ s₁, s.add xs = .ok s₁ ∧ s₁.add ys = .ok s') ∧
    ∀ xss yss s₁ s₂, s.addAll xss = .ok s₁ → s.addAll yss = .ok s₂ → (∀ r, r ∈ xss.flatten ↔ r ∈ yss.flatten) →
      ∀ ops replies₁ replies₂ t₁ t₂, s₁.Answers ops replies₁ t₁ → s₂.Answers ops replies₂ t₂ →
        replies₁ = replies₂ ∧ t₁ = t₂ ∧
          ∀ scan : List Row, scan.Perm t₁.rows.entries → scan.mergeSort Row.precedes = t₂.all := by
  refine ⟨fun rows => ⟨?_, ?_⟩, ?_, ?_⟩
  · intro h
    obtain ⟨id, hid⟩ := exists_refuses_iff.2 h
    refine ⟨id, hid, ?_⟩
    rw [answer, add_of_refuses hid]
    rfl
  · intro h
    have hadd := add_of_admits (admits_iff.2 h)
    refine ⟨_, ?_, entries_add hadd⟩
    rw [answer, hadd]
    rfl
  · intro xs ys s'
    rw [add_append]
    cases s.add xs with
    | error e =>
        constructor
        · intro h
          cases h
        · rintro ⟨s₁, h, -⟩
          cases h
    | ok s₁ => simp [bind, Except.bind]
  · intro xss yss s₁ s₂ h₁ h₂ hrows ops replies₁ replies₂ t₁ t₂ hrun₁ hrun₂
    obtain rfl := addAll_unique h₁ h₂ hrows
    obtain ⟨rfl, rfl⟩ := answers_iff.1 hrun₁
    obtain ⟨rfl, rfl⟩ := answers_iff.1 hrun₂
    exact ⟨rfl, rfl, fun scan hscan => all_scan hscan⟩

theorem additions_unordered_reversed :
    let xss := [[Row.sample 2], [Row.sample 1, Row.sample 3]]
    let yss := [[Row.sample 3, Row.sample 2, Row.sample 1]]
    let claim := Operation.claim 2 "worker" (.ofSeconds 30) .epoch
    ∃ s₁ s₂, empty.addAll xss = .ok s₁ ∧ empty.addAll yss = .ok s₂ ∧ (∀ r, r ∈ xss.flatten ↔ r ∈ yss.flatten) ∧
      s₁.Answers [claim] [(s₁.answerOver s₁.rows.entries claim).1] (s₁.answerOver s₁.rows.entries claim).2 ∧
      s₂.Answers [claim] [(s₂.answerOver s₂.rows.entries.reverse claim).1]
        (s₂.answerOver s₂.rows.entries.reverse claim).2 ∧
      (s₁.answerOver s₁.rows.entries claim).1 = (s₂.answerOver s₂.rows.entries.reverse claim).1 ∧
      (s₁.answerOver s₁.rows.entries claim).1 = .rows ([Row.sample 1, Row.sample 2].map
        (·.leasedTo "worker" (Time.epoch.later 30))) := by
  intro xss yss claim
  obtain ⟨s₁, h₁, hfilter⟩ : ∃ s₁, empty.addAll xss = .ok s₁ ∧
      s₁.rows.entries.filter (·.isClaimable .epoch) = [Row.sample 1, Row.sample 2, Row.sample 3] :=
    ⟨_, rfl, by decide +kernel⟩
  have hsort : (s₁.rows.entries.filter (·.isClaimable .epoch)).mergeSort Row.precedes =
      [Row.sample 1, Row.sample 2, Row.sample 3] := by
    rw [hfilter]
    apply List.mergeSort_of_pairwise
    decide +kernel
  have hbatch : (s₁.answerOver s₁.rows.entries claim).1 =
      .rows ([Row.sample 1, Row.sample 2].map (·.leasedTo "worker" (Time.epoch.later 30))) := by
    have hexpiry : leaseExpiry .epoch (.ofSeconds 30) = .ok (Time.epoch.later 30) := by decide +kernel
    simp only [claim, answerOver, hexpiry, reply, hsort, List.take_succ_cons, List.take_zero]
  obtain ⟨s₂, h₂⟩ : ∃ s₂, empty.addAll yss = .ok s₂ := ⟨_, rfl⟩
  have hrows : ∀ r, r ∈ xss.flatten ↔ r ∈ yss.flatten := by
    intro r
    simp only [xss, yss, List.flatten_cons, List.flatten_nil, List.mem_append, List.mem_cons, List.not_mem_nil,
      or_false]
    tauto
  have hrun₁ : s₁.Answers [claim] _ _ := .cons (.refl _) (.nil (s₁.answerOver s₁.rows.entries claim).2)
  have hrun₂ : s₂.Answers [claim] _ _ :=
    .cons (List.reverse_perm _) (.nil (s₂.answerOver s₂.rows.entries.reverse claim).2)
  obtain ⟨hsame, -, -⟩ := (additions_unordered empty).2.2 xss yss s₁ s₂ h₁ h₂ hrows [claim] _ _ _ _ hrun₁ hrun₂
  exact ⟨s₁, s₂, h₁, h₂, hrows, hrun₁, hrun₂, (List.cons.inj hsame).1, hbatch⟩

/-- Of rows whose ids occur twice, the first may not be the one that is named: the second is repeated before it is. -/
theorem first_repeated_not_named :
    let rows := [Row.sample 1, Row.sample 2, Row.sample 2, Row.sample 1]
    rows.find? (fun r => empty.Collides rows r) = some (Row.sample 1) ∧
      empty.answer (.add rows) = (.refused (.alreadyExists (Row.sample 2).id), empty) ∧
      (Row.sample 2).id ≠ (Row.sample 1).id := by
  decide +kernel

end Outbox.Store
