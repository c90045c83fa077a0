import Mathlib.Algebra.BigOperators.Group.List.Basic
import Mathlib.Algebra.GroupWithZero.Nat
import Outbox.Proofs.Store.Soundness

namespace Outbox

namespace Table

variable {α : Type} [Keyed α] (f : α → Nat)

theorem sum_place (a : α) {bs : List α} (hs : bs.Pairwise (key · < key ·)) :
    ((place a bs).map f).sum + ((bs.find? (key · == key a)).map f).getD 0 = (bs.map f).sum + f a := by
  induction bs with
  | nil => simp [place]
  | cons b bs ih =>
      obtain ⟨hb, hbs⟩ := List.pairwise_cons.1 hs
      simp only [place]
      split
      · rename_i hlt
        have hnone : (b :: bs).find? (key · == key a) = none := by
          simp only [List.find?_eq_none, beq_iff_eq, List.mem_cons]
          rintro c (rfl | hc)
          · omega
          · have := hb c hc
            omega
        simp [hnone, Nat.add_comm]
      · split
        · rename_i heq
          simp [heq, Nat.add_comm, Nat.add_left_comm]
        · rename_i hne
          have hskip : (key b == key a) = false := by simpa using Ne.symm hne
          have hrest := ih hbs
          simp only [List.map_cons, List.sum_cons, List.find?_cons, hskip] at hrest ⊢
          omega

theorem sum_insert (t : Table α) (a : α) :
    ((t.insert a).entries.map f).sum + ((t.get? (key a)).map f).getD 0 = (t.entries.map f).sum + f a :=
  sum_place f a t.ascending

end Table

def Row.IsDispatched (r : Row) (policy : RetryPolicy) (q : Row) : Prop :=
  (∃ t, q = r.processed t) ∨ ∃ error t, q = r.failed error t policy

/-- How often a row can still be dispatched before its end. -/
def Row.budget (policy : RetryPolicy) (r : Row) : Nat :=
  if r.isTerminal then 0 else max 1 (policy.maxAttempts.toNat - r.attempts.toNat)

namespace Row

variable {policy : RetryPolicy} {r q : Row}

theorem budget_pos (hlive : r.isTerminal = false) : 1 ≤ r.budget policy := by
  rw [budget, hlive]
  exact Nat.le_max_left ..

theorem budget_failed (hlive : r.isTerminal = false) (hspare : r.attempts.toNat < 0xFFFFFFFF) (error : String)
    (now : Time) : (r.failed error now policy).budget policy + 1 ≤ r.budget policy := by
  have hdead := isDeadLettered_failed hlive error now policy
  have hcount := toNat_countAttempt hspare
  cases hretry : policy.shouldRetry (countAttempt r.attempts) with
  | false =>
      rw [hretry] at hdead
      have hend : (r.failed error now policy).isTerminal = true := by
        rw [isTerminal, hdead]
        exact Bool.or_true _
      rw [budget, if_pos hend]
      exact budget_pos hlive
  | true =>
      have hlt : (countAttempt r.attempts).toNat < policy.maxAttempts.toNat := by
        simpa [RetryPolicy.shouldRetry, UInt32.lt_iff_toNat_lt] using hretry
      have hattempts : (r.failed error now policy).attempts.toNat = r.attempts.toNat + 1 := hcount
      have hopen : (r.failed error now policy).isTerminal = false :=
        isTerminal_eq_false.2 ⟨(isTerminal_eq_false.1 hlive).1, by rw [hdead, hretry]; rfl⟩
      simp only [budget, hlive, hopen, hattempts, Bool.false_eq_true, if_false]
      omega

theorem IsDispatched.budget_lt (h : r.IsDispatched policy q) (hlive : r.isTerminal = false)
    (hspare : r.attempts.toNat < 0xFFFFFFFF) : q.budget policy + 1 ≤ r.budget policy := by
  obtain ⟨t, rfl⟩ | ⟨error, t, rfl⟩ := h
  · have hend : (r.processed t).isTerminal = true := rfl
    rw [budget, if_pos hend]
    exact budget_pos hlive
  · exact budget_failed hlive hspare error t

theorem IsDispatched.id_eq (h : r.IsDispatched policy q) : q.id = r.id := by
  obtain ⟨t, rfl⟩ | ⟨error, t, rfl⟩ := h
  · rfl
  · rfl

theorem IsDispatched.spare (h : r.IsDispatched policy q) (hlive : r.isTerminal = false)
    (hq : q.isTerminal = false) : q.attempts.toNat < 0xFFFFFFFF := by
  obtain ⟨t, rfl⟩ | ⟨error, t, rfl⟩ := h
  · cases hq
  · exact (IsSound.failed hlive error t policy).spare hq

end Row

namespace Store

variable {policy : RetryPolicy} {s : Store} {r q : Row}

def budget (policy : RetryPolicy) (s : Store) : Nat := (s.rows.entries.map (Row.budget policy)).sum

def HasRoom (s : Store) : Prop := ∀ id r, s.get? id = some r → r.isTerminal = false → r.attempts.toNat < 0xFFFFFFFF

theorem budget_put (policy : RetryPolicy) (hr : s.get? q.id = some r) :
    (s.put q).budget policy + r.budget policy = s.budget policy + q.budget policy := by
  have hsum := s.rows.sum_insert (Row.budget policy) q
  have hget : s.rows.get? (key q) = some r := hr
  rwa [hget, Option.map_some, Option.getD_some] at hsum

theorem budget_insertAll {rows : List Row} (hnodup : (rows.map (·.id)).Nodup)
    (hrows : ∀ r ∈ rows, ∃ q, s.get? r.id = some q ∧ q.budget policy = r.budget policy) :
    (⟨s.rows.insertAll rows⟩ : Store).budget policy = s.budget policy := by
  induction rows generalizing s with
  | nil => rfl
  | cons r rows ih =>
      obtain ⟨hr, hnodup⟩ := List.nodup_cons.1 hnodup
      obtain ⟨q, hq, hsame⟩ := hrows r (List.mem_cons_self ..)
      have hput := budget_put policy hq
      have hrest : (⟨(s.put r).rows.insertAll rows⟩ : Store).budget policy = (s.put r).budget policy := by
        refine ih hnodup fun p hp => ?_
        obtain ⟨q, hq, hsame⟩ := hrows p (List.mem_cons_of_mem _ hp)
        have hne : r.id ≠ p.id := fun he => hr (List.mem_map.2 ⟨p, hp, he.symm⟩)
        exact ⟨q, by rw [get?_put, if_neg hne, hq], hsame⟩
      change (⟨(s.put r).rows.insertAll rows⟩ : Store).budget policy = s.budget policy
      omega

theorem hasRoom_put (hs : s.HasRoom) (hq : q.isTerminal = false → q.attempts.toNat < 0xFFFFFFFF) :
    (s.put q).HasRoom := by
  intro id r hr hlive
  rw [get?_put] at hr
  split at hr
  · cases hr
    exact hq hlive
  · exact hs id r hr hlive

theorem budget_claim (s : Store) (take : Nat) (worker : String) (expiry now : Time) :
    (⟨s.rows.insertAll (s.batchOf take worker expiry now)⟩ : Store).budget policy = s.budget policy := by
  have hc := s.claimed_batchOf take worker expiry now
  refine budget_insertAll hc.nodup fun r hr => ?_
  obtain ⟨q, hq, -, rfl⟩ := hc.leased r hr
  exact ⟨q, hq, rfl⟩

end Store

end Outbox
