import Outbox.Proofs.Retry
import Outbox.Settings.Environment

namespace Outbox.Settings

structure Check where
  var : String
  objects : String → Option SettingError
  names : ∀ {raw e}, objects raw = some e → e.var = var

def Check.objection (c : Check) (env : Environment) : Option SettingError := (env c.var).bind c.objects

def refusal (checks : List Check) (env : Environment) : Option SettingError := checks.findSome? (·.objection env)

def only (env : Environment) (var : String) : Environment := fun v => if v = var then env v else none

variable {α β : Type} {env : Environment} {checks checks' : List Check} {e : SettingError} {var : String}

theorem objection_only (c : Check) (var : String) :
    c.objection (only env var) = if c.var = var then c.objection env else none := by
  unfold Check.objection only
  split <;> rfl

theorem refusal_only (h : refusal checks env = some e) :
    (env e.var).isSome ∧ refusal checks (only env e.var) = some e := by
  obtain ⟨before, c, after, hchecks, hc, hbefore⟩ := List.findSome?_eq_some_iff.1 h
  obtain ⟨raw, hraw, hobjects⟩ := Option.bind_eq_some_iff.1 hc
  have hvar : e.var = c.var := c.names hobjects
  refine ⟨by rw [hvar, hraw]; rfl, List.findSome?_eq_some_iff.2 ⟨before, c, after, hchecks, ?_, fun x hx => ?_⟩⟩
  · rw [objection_only, if_pos hvar.symm, hc]
  -- An earlier check looks at the same variable, which it has let pass, or at one that is not set any more.
  · rw [objection_only, hbefore x hx, ite_self]

theorem refusal_only_eq_none (h : refusal checks env = none) (var : String) :
    refusal checks (only env var) = none := by
  refine List.findSome?_eq_none_iff.2 fun c hc => ?_
  rw [objection_only, List.findSome?_eq_none_iff.1 h c hc, ite_self]

/-- A result that is an error if and only if there is something to object to. -/
def Agrees (x : Except SettingError α) (o : Option SettingError) : Prop :=
  match x with
  | .ok _ => o = none
  | .error e => o = some e

theorem Agrees.bind {x : Except SettingError α} {f : α → Except SettingError β} (hx : Agrees x (refusal checks env))
    (hf : ∀ a, x = .ok a → Agrees (f a) (refusal checks' env)) :
    Agrees (x >>= f) (refusal (checks ++ checks') env) := by
  unfold refusal at hx hf ⊢
  rw [List.findSome?_append]
  cases x with
  | ok a =>
      have hnone : checks.findSome? (·.objection env) = none := hx
      rw [hnone, Option.none_or]
      exact hf a rfl
  | error e =>
      have hsome : checks.findSome? (·.objection env) = some e := hx
      rw [hsome, Option.some_or]
      rfl

def parses (var : String) (f : String → Except String α) : Check where
  var
  objects raw := match f (Text.trim raw) with
    | .ok _ => none
    | .error reason => some ⟨var, raw, reason⟩
  names {raw e} h := by
    cases hf : f (Text.trim raw) with
    | ok a => simp [hf] at h
    | error reason =>
        simp only [hf, Option.some.injEq] at h
        rw [← h]

def keeps (var : String) (f : String → Except String α) (check : α → Except SettingError Unit)
    (hnames : ∀ a e, check a = .error e → e.var = var) : Check where
  var
  objects raw := match f (Text.trim raw) with
    | .ok a => match check a with
      | .ok _ => none
      | .error e => some e
    | .error _ => none
  names {raw e} h := by
    cases hf : f (Text.trim raw) with
    | ok a =>
        cases ha : check a with
        | ok u => simp [hf, ha] at h
        | error e' =>
            simp only [hf, ha, Option.some.injEq] at h
            exact h ▸ hnames a e' ha
    | error reason => simp [hf] at h

theorem agrees_readOr (env : Environment) (var : String) (standard : α) (f : String → Except String α) :
    Agrees (readOr env var standard f) (refusal [parses var f] env) := by
  unfold readOr
  simp only [refusal, List.findSome?_cons, List.findSome?_nil, Check.objection, parses]
  cases env var with
  | none => rfl
  | some raw =>
      dsimp only [Option.bind_some]
      cases f (Text.trim raw) <;> rfl

theorem agrees_check {standard a : α} {f : String → Except String α} (check : α → Except SettingError Unit)
    (hnames : ∀ a e, check a = .error e → e.var = var) (hstandard : check standard = .ok ())
    (ha : readOr env var standard f = .ok a) : Agrees (check a) (refusal [keeps var f check hnames] env) := by
  unfold readOr at ha
  simp only [refusal, List.findSome?_cons, List.findSome?_nil, Check.objection, keeps]
  cases hraw : env var with
  | none =>
      simp only [hraw] at ha
      cases ha
      rw [hstandard]
      rfl
  | some raw =>
      simp only [hraw] at ha
      cases hf : f (Text.trim raw) with
      | error reason => simp [hf] at ha
      | ok b =>
          simp only [hf, Except.ok.injEq] at ha
          subst ha
          simp only [Option.bind_some, hf]
          cases check b <;> rfl

theorem atLeastOne_names (var : String) (n : Nat) (e : SettingError) (h : atLeastOne var n = .error e) :
    e.var = var := by
  unfold atLeastOne at h
  split at h <;> cases h
  rfl

theorem within_names (var : String) (low high d : Duration) (e : SettingError) (h : within var d low high = .error e) :
    e.var = var := by
  unfold within at h
  split at h <;> cases h
  rfl

def counts (var : String) (f : String → Except String α) (toNat : α → Nat) : Check :=
  keeps var f (fun a => atLeastOne var (toNat a)) fun a => atLeastOne_names var (toNat a)

def spans (var : String) (f : String → Except String Duration) (low high : Duration) : Check :=
  keeps var f (fun d => within var d low high) (within_names var low high)

theorem agrees_counts {standard a : α} {f : String → Except String α} (toNat : α → Nat)
    (hstandard : toNat standard ≠ 0) (ha : readOr env var standard f = .ok a) :
    Agrees (atLeastOne var (toNat a)) (refusal [counts var f toNat] env) :=
  agrees_check (fun a => atLeastOne var (toNat a)) _ (if_neg hstandard) ha

theorem agrees_spans {standard d low high : Duration} {f : String → Except String Duration}
    (hstandard : low ≤ standard ∧ standard ≤ high) (hd : readOr env var standard f = .ok d) :
    Agrees (within var d low high) (refusal [spans var f low high] env) :=
  agrees_check (fun d => within var d low high) _ (if_pos hstandard) hd

def retryChecks : List Check :=
  [parses "OUTBOX_MAX_ATTEMPTS" word32, parses "OUTBOX_BASE_BACKOFF_MS" millis,
    parses "OUTBOX_MAX_BACKOFF_SECS" seconds, counts "OUTBOX_MAX_ATTEMPTS" word32 UInt32.toNat,
    spans "OUTBOX_BASE_BACKOFF_MS" millis .zero backoffLimit,
    spans "OUTBOX_MAX_BACKOFF_SECS" seconds .zero backoffLimit]

theorem agrees_readRetry (env : Environment) : Agrees (readRetry env) (refusal retryChecks env) := by
  refine (agrees_readOr env _ _ _).bind fun maxAttempts hattempts => ?_
  refine (agrees_readOr env _ _ _).bind fun baseBackoff hbase => ?_
  refine (agrees_readOr env _ _ _).bind fun maxBackoff hmax => ?_
  refine (agrees_counts UInt32.toNat (by decide) hattempts).bind fun _ _ => ?_
  refine (agrees_spans (by decide) hbase).bind fun _ _ => ?_
  refine (agrees_spans (by decide) hmax).bind fun _ _ => ?_
  rfl

def batch (s : String) : Except String Nat := (word64 s).map (·.toNat)

/-- All that is looked at, in the order in which reading comes to it. -/
def settingChecks : List Check :=
  retryChecks ++
    [parses "OUTBOX_LEASE_SECS" seconds, spans "OUTBOX_LEASE_SECS" seconds leaseFloor leaseCeiling,
      parses "OUTBOX_BATCH_SIZE" batch, counts "OUTBOX_BATCH_SIZE" batch id, parses "OUTBOX_IDLE_INTERVAL_MS" millis,
      parses "OUTBOX_BATCH_PAUSE_MS" millis, parses "OUTBOX_CLAIM_STRATEGY" ClaimStrategy.read]

theorem agrees_read (env : Environment) (workerId : String) :
    Agrees (read env (.standard workerId)) (refusal settingChecks env) := by
  refine (agrees_readRetry env).bind fun retry _ => ?_
  refine (agrees_readOr env _ _ _).bind fun lease hlease => ?_
  have hstandard : leaseFloor ≤ .ofSeconds 30 ∧ .ofSeconds 30 ≤ leaseCeiling := by decide
  refine (agrees_spans hstandard hlease).bind fun _ _ => ?_
  refine (agrees_readOr env _ _ batch).bind fun size hsize => ?_
  refine (agrees_counts id (by decide : (50 : Nat) ≠ 0) hsize).bind fun _ _ => ?_
  refine (agrees_readOr env _ _ _).bind fun idleInterval _ => ?_
  refine (agrees_readOr env _ _ _).bind fun batchPause _ => ?_
  refine (agrees_readOr env _ _ _).bind fun claimStrategy _ => ?_
  rfl

theorem bind_eq_ok {x : Except SettingError α} {f : α → Except SettingError β} {b : β} (h : x >>= f = .ok b) :
    ∃ a, x = .ok a ∧ f a = .ok b := by
  cases x with
  | error e => cases h
  | ok a => exact ⟨a, rfl, h⟩

theorem atLeastOne_eq_ok {n : Nat} {u : Unit} (h : atLeastOne var n = .ok u) : 1 ≤ n := by
  unfold atLeastOne at h
  split at h
  · cases h
  · omega

theorem within_eq_ok {low d high : Duration} {u : Unit} (h : within var d low high = .ok u) : low ≤ d ∧ d ≤ high := by
  unfold within at h
  split at h
  · assumption
  · cases h

theorem readOr_millis {standard d : Duration} (hstandard : 1_000_000 ∣ standard.nanos)
    (h : readOr env var standard millis = .ok d) : 1_000_000 ∣ d.nanos := by
  unfold readOr at h
  cases hraw : env var with
  | none =>
      simp only [hraw] at h
      cases h
      exact hstandard
  | some raw =>
      simp only [hraw] at h
      unfold millis at h
      cases hword : word64 (Text.trim raw) with
      | error reason => simp [hword, Except.map] at h
      | ok ms =>
          simp only [hword, Except.map, Except.ok.injEq] at h
          exact h ▸ Nat.dvd_mul_left _ _

/-- A policy that waits for whole milliseconds at first, and never for more than thirty days. -/
structure IsSound (p : RetryPolicy) : Prop where
  maxAttempts_pos : 1 ≤ p.maxAttempts
  baseBackoff_le : p.baseBackoff ≤ backoffLimit
  maxBackoff_le : p.maxBackoff ≤ backoffLimit
  millis : 1_000_000 ∣ p.baseBackoff.nanos

theorem IsSound.backoff_nanos {p : RetryPolicy} (h : IsSound p) {attempt : UInt32} (hattempt : attempt ≠ 0) :
    (p.backoff attempt).nanos = min (p.baseBackoff.nanos * 2 ^ (attempt.toNat - 1)) p.maxBackoff.nanos :=
  RetryPolicy.backoff_nanos h.maxBackoff_le h.millis hattempt

theorem readRetry_isSound {p : RetryPolicy} (h : readRetry env = .ok p) : IsSound p := by
  obtain ⟨maxAttempts, -, h⟩ := bind_eq_ok h
  obtain ⟨baseBackoff, hmillis, h⟩ := bind_eq_ok h
  obtain ⟨maxBackoff, -, h⟩ := bind_eq_ok h
  obtain ⟨_, hattempts, h⟩ := bind_eq_ok h
  obtain ⟨_, hbase, h⟩ := bind_eq_ok h
  obtain ⟨_, hmax, h⟩ := bind_eq_ok h
  cases h
  refine ⟨UInt32.le_iff_toNat_le.2 (atLeastOne_eq_ok hattempts), (within_eq_ok hbase).2, (within_eq_ok hmax).2, ?_⟩
  exact readOr_millis (by decide) hmillis

structure IsValid (s : Settings) : Prop where
  retry : IsSound s.retry
  batchSize_pos : 1 ≤ s.batchSize
  lease_ge : leaseFloor ≤ s.lease
  lease_le : s.lease ≤ leaseCeiling

theorem read_isValid {base s : Settings} (h : read env base = .ok s) : s.IsValid := by
  obtain ⟨retry, hretry, h⟩ := bind_eq_ok h
  obtain ⟨lease, -, h⟩ := bind_eq_ok h
  obtain ⟨_, hlease, h⟩ := bind_eq_ok h
  obtain ⟨size, -, h⟩ := bind_eq_ok h
  obtain ⟨_, hsize, h⟩ := bind_eq_ok h
  obtain ⟨idleInterval, -, h⟩ := bind_eq_ok h
  obtain ⟨batchPause, -, h⟩ := bind_eq_ok h
  obtain ⟨claimStrategy, -, h⟩ := bind_eq_ok h
  cases h
  exact ⟨readRetry_isSound hretry, atLeastOne_eq_ok hsize, (within_eq_ok hlease).1, (within_eq_ok hlease).2⟩

theorem ofEnvironment_eq_error_iff {id : Uuid} :
    ofEnvironment env id = .error e ↔ refusal settingChecks env = some e := by
  have hagrees : Agrees (ofEnvironment env id) (refusal settingChecks env) := agrees_read env _
  cases hread : ofEnvironment env id with
  | ok s =>
      have hnone : refusal settingChecks env = none := by simpa [hread, Agrees] using hagrees
      simp [hnone]
  | error e' =>
      have hsome : refusal settingChecks env = some e' := by simpa [hread, Agrees] using hagrees
      simp [hsome]

theorem exists_ofEnvironment_iff {id : Uuid} :
    (∃ s, ofEnvironment env id = .ok s) ↔ refusal settingChecks env = none := by
  rw [Option.eq_none_iff_forall_ne_some]
  have herror : ∀ e, refusal settingChecks env ≠ some e ↔ ofEnvironment env id ≠ .error e := fun e =>
    not_congr ofEnvironment_eq_error_iff.symm
  simp only [herror, ne_eq]
  cases ofEnvironment env id <;> simp

theorem lease_le_backoffLimit {s : Settings} (h : s.IsValid) : s.lease ≤ backoffLimit :=
  Nat.le_trans h.lease_le (by decide)

/-- Settings are accepted if each variable that is set is accepted by itself, and the error names one that is not.
With settings that are accepted, a lease or a wait that begins thirty days before the end of the calendar, or
earlier, is over when it says, to the nanosecond: the wait doubles from one attempt to the next up to the longest. -/
theorem arithmetic_exact (env : Environment) (id : Uuid) :
    ((∃ s, ofEnvironment env id = .ok s) ↔
      ∀ var, (env var).isSome → ∃ s, ofEnvironment (only env var) id = .ok s) ∧
    (∀ e, ofEnvironment env id = .error e → (env e.var).isSome ∧ ofEnvironment (only env e.var) id = .error e) ∧
    ∀ s, ofEnvironment env id = .ok s → s.IsValid ∧
      ∀ now : Time, now.clock + backoffLimit.nanos ≤ Time.latest.clock →
        (∃ t, leaseExpiry now s.lease = .ok t ∧ now.plus? s.lease = some t ∧ t.clock = now.clock + s.lease.nanos) ∧
        ∀ attempts : UInt32, 1 ≤ attempts → attempts < s.retry.maxAttempts → ∃ (d : Duration) (t : Time),
          d.nanos = min (s.retry.baseBackoff.nanos * 2 ^ (attempts.toNat - 1)) s.retry.maxBackoff.nanos ∧
          s.retry.nextAttempt attempts now = some t ∧ now.plus? d = some t ∧ t.clock = now.clock + d.nanos := by
  have herror : ∀ e, ofEnvironment env id = .error e →
      (env e.var).isSome ∧ ofEnvironment (only env e.var) id = .error e := fun e he => by
    rw [ofEnvironment_eq_error_iff] at he ⊢
    exact refusal_only he
  refine ⟨⟨fun hs var _ => ?_, fun halone => ?_⟩, herror, fun s hs => ?_⟩
  · rw [exists_ofEnvironment_iff] at hs ⊢
    exact refusal_only_eq_none hs var
  · cases hread : ofEnvironment env id with
    | ok s => exact ⟨s, rfl⟩
    | error e =>
        obtain ⟨hset, hrefused⟩ := herror e hread
        obtain ⟨s, hs⟩ := halone e.var hset
        cases hrefused.symm.trans hs
  · have hvalid : s.IsValid := read_isValid hs
    refine ⟨hvalid, fun now hnow => ⟨?_, fun attempts hpos hless => ?_⟩⟩
    · obtain ⟨t, ht, hclock⟩ := Time.exists_plus? (lease_le_backoffLimit hvalid) hnow
      exact ⟨t, leaseExpiry_eq_ok hvalid.lease_ge ht, ht, hclock⟩
    · have hne : attempts ≠ 0 := by
        rintro rfl
        exact absurd hpos (by decide)
      obtain ⟨t, ht, hclock⟩ := Time.exists_plus? (s.retry.backoff_le attempts) hnow
      exact ⟨_, t, hvalid.retry.backoff_nanos hne, RetryPolicy.nextAttempt_eq_some hless ht, ht, hclock⟩

/-- Forty attempts, the first wait a millisecond long and the longest thirty days. -/
def patient : Environment := fun var =>
  [("OUTBOX_MAX_ATTEMPTS", "40"), ("OUTBOX_BASE_BACKOFF_MS", " 1 "), ("OUTBOX_MAX_BACKOFF_SECS", "2592000")].lookup var

theorem arithmetic_exact_patient : ∃ s t, ofEnvironment patient default = .ok s ∧
    s.retry.nextAttempt 39 .epoch = some t ∧ t.clock = 2_592_000_000_000_000 := by
  obtain ⟨s, hs, hretry⟩ : ∃ s, ofEnvironment patient default = .ok s ∧ s.retry = ⟨40, .ofMillis 1, backoffLimit⟩ :=
    ⟨_, rfl, by decide +kernel⟩
  have hexact := ((arithmetic_exact patient default).2.2 s hs).2 .epoch (by decide)
  obtain ⟨d, t, hd, ht, -, hclock⟩ := hexact.2 39 (by decide) (by rw [hretry]; decide)
  refine ⟨s, t, hs, ht, ?_⟩
  rw [hclock, hd, hretry]
  decide

end Outbox.Settings
