import Outbox.Proofs.Postgres.Line

namespace Outbox.Postgres

theorem Peer.run_ofSession {α : Type} (p : Peer) (x : Session α) (line : List Exchange) :
    p.run (Store.Claim.ofSession x) line = ((p.run x line).1.mapError Interruption.refused, (p.run x line).2) :=
  p.hold_bind x.run (fun result => .done (result.mapError Interruption.refused)) line

theorem Peer.run_claim (p : Peer) (strategy : ClaimStrategy) (take : Nat) (worker : String) (lease : Duration)
    (now : Time) (line : List Exchange) :
    p.run (Store.claim strategy take worker lease now) line =
      p.run (Store.claimBy strategy take worker lease now) line := by
  refine (p.hold_within _ _ line).trans ?_
  refine (p.run_tryCatch (Store.claimBy strategy take worker lease now) _ line).trans ?_
  match p.run (Store.claimBy strategy take worker lease now) line with
  | (.ok rows, line') => rfl
  | (.error (.refused e), line') => rfl
  | (.error (.aborted a), line') => rfl

namespace Store

variable {α β : Type} {limit : Abort → Prop}

namespace Claim

def Meets (limit : Abort → Prop) (x : Claim α) : Prop :=
  ∀ (p : Peer) (line : List Exchange) (a : Abort), (p.run x line).1 = .error (.aborted a) → limit a

theorem meets_pure (x : α) : Meets limit (pure x : Claim α) := nofun

theorem meets_throw {a : Abort} (h : limit a) : Meets limit (throw (.aborted a) : Claim α) := by
  intro p line a' ha
  cases ha
  exact h

theorem meets_ofSession (x : Session α) : Meets limit (ofSession x) := by
  intro p line a ha
  rw [p.run_ofSession] at ha
  cases hresult : (p.run x line).1 with
  | ok a' =>
      rw [hresult] at ha
      cases ha
  | error e =>
      rw [hresult] at ha
      cases ha

theorem Meets.bind {x : Claim α} {f : α → Claim β} (hx : Meets limit x) (hf : ∀ a, Meets limit (f a)) :
    Meets limit (x >>= f) := by
  intro p line a ha
  rw [p.run_bind] at ha
  match hrun : p.run x line with
  | (.ok x', line') =>
      rw [hrun] at ha
      exact hf x' p line' a ha
  | (.error e, line') =>
      rw [hrun] at ha
      cases ha
      exact hx p line a (congrArg Prod.fst hrun)

end Claim

open Claim

def Overfull (strategy : ClaimStrategy) (take : Nat) (a : Abort) : Prop :=
  a = .memory ∧ strategy = .perRow ∧ memoryLimit < take * rowBytes

variable (strategy : ClaimStrategy) (take : Nat) (worker : String) (expiry now : Time) (lease : Duration)

theorem claimEach_meets : Meets (Overfull .perRow take) (claimEach take worker expiry now) := by
  refine (meets_ofSession _).bind fun result => ?_
  split
  case isTrue hfull => exact meets_throw ⟨rfl, rfl, hfull⟩
  case isFalse => exact meets_ofSession _

theorem claimBy_meets : Meets (Overfull strategy take) (claimBy strategy take worker lease now) := by
  refine (meets_ofSession _).bind fun expiry => ?_
  split
  · exact meets_pure []
  · cases strategy with
    | perRow => exact (claimEach_meets take worker expiry now).bind fun rows => meets_pure _
    | setBased => exact (meets_ofSession _).bind fun rows => meets_pure _

theorem claim_meets : Meets (Overfull strategy take) (claim strategy take worker lease now) := by
  intro p line a ha
  rw [p.run_claim] at ha
  exact claimBy_meets strategy take worker now lease p line a ha

end Store

end Outbox.Postgres
