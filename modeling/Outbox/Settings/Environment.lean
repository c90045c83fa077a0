import Outbox.Settings
import Outbox.Text.Numeral
import Outbox.Uuid

namespace Outbox

abbrev Environment := String → Option String

structure SettingError where
  var : String
  value : String
  reason : String
deriving DecidableEq

def SettingError.message (e : SettingError) : String :=
  "invalid value for " ++ e.var ++ ": '" ++ e.value ++ "' (" ++ e.reason ++ ")"

namespace Settings

variable {α : Type}

def readOr (env : Environment) (var : String) (standard : α) (read : String → Except String α) :
    Except SettingError α :=
  match env var with
  | none => .ok standard
  | some raw =>
    match read (Text.trim raw) with
    | .ok a => .ok a
    | .error reason => .error ⟨var, raw, reason⟩

def word32 (s : String) : Except String UInt32 :=
  match Text.numeral (0x1_0000_0000) s with
  | .ok n => .ok (UInt32.ofNat n)
  | .error e => .error e.message

def word64 (s : String) : Except String UInt64 :=
  match Text.numeral (0x1_0000_0000_0000_0000) s with
  | .ok n => .ok (UInt64.ofNat n)
  | .error e => .error e.message

def seconds (s : String) : Except String Duration := (word64 s).map .ofSeconds

def millis (s : String) : Except String Duration := (word64 s).map .ofMillis

def atLeastOne (var : String) (n : Nat) : Except SettingError Unit :=
  if n = 0 then .error ⟨var, "0", "must be at least 1"⟩ else .ok ()

def within (var : String) (d low high : Duration) : Except SettingError Unit :=
  if low ≤ d ∧ d ≤ high then .ok ()
  else .error ⟨var, d.text, "must be between " ++ low.text ++ " and " ++ high.text⟩

def leaseFloor : Duration := .ofSeconds 1

def leaseCeiling : Duration := .ofSeconds (24 * 60 * 60)

def readRetry (env : Environment) : Except SettingError RetryPolicy := do
  let maxAttempts ← readOr env "OUTBOX_MAX_ATTEMPTS" RetryPolicy.standard.maxAttempts word32
  let baseBackoff ← readOr env "OUTBOX_BASE_BACKOFF_MS" RetryPolicy.standard.baseBackoff millis
  let maxBackoff ← readOr env "OUTBOX_MAX_BACKOFF_SECS" RetryPolicy.standard.maxBackoff seconds
  atLeastOne "OUTBOX_MAX_ATTEMPTS" maxAttempts.toNat
  within "OUTBOX_BASE_BACKOFF_MS" baseBackoff .zero backoffLimit
  within "OUTBOX_MAX_BACKOFF_SECS" maxBackoff .zero backoffLimit
  return ⟨maxAttempts, baseBackoff, maxBackoff⟩

def vars : List String :=
  ["OUTBOX_MAX_ATTEMPTS", "OUTBOX_BASE_BACKOFF_MS", "OUTBOX_MAX_BACKOFF_SECS", "OUTBOX_LEASE_SECS", "OUTBOX_BATCH_SIZE",
    "OUTBOX_IDLE_INTERVAL_MS", "OUTBOX_BATCH_PAUSE_MS", "OUTBOX_CLAIM_STRATEGY", "OUTBOX_WORKER_ID", "OUTBOX_TOPIC"]

def read (env : Environment) (base : Settings) : Except SettingError Settings := do
  let retry ← readRetry env
  let lease ← readOr env "OUTBOX_LEASE_SECS" base.lease seconds
  within "OUTBOX_LEASE_SECS" lease leaseFloor leaseCeiling
  let batchSize ← readOr env "OUTBOX_BATCH_SIZE" base.batchSize fun s => (word64 s).map (·.toNat)
  atLeastOne "OUTBOX_BATCH_SIZE" batchSize
  let idleInterval ← readOr env "OUTBOX_IDLE_INTERVAL_MS" base.idleInterval millis
  let batchPause ← readOr env "OUTBOX_BATCH_PAUSE_MS" base.batchPause millis
  let claimStrategy ← readOr env "OUTBOX_CLAIM_STRATEGY" base.claimStrategy ClaimStrategy.read
  return {
    workerId := (env "OUTBOX_WORKER_ID").getD base.workerId
    topic := (env "OUTBOX_TOPIC").getD base.topic
    batchSize, lease, idleInterval, batchPause, retry, claimStrategy }

def freshWorkerId (env : Environment) (id : Uuid) : String :=
  (env "HOSTNAME").getD "outbox-processor" ++ ":" ++ id.simple

def ofEnvironment (env : Environment) (id : Uuid) : Except SettingError Settings :=
  read env (.standard (freshWorkerId env id))

end Settings

namespace KafkaSettings

def ofEnvironment (env : Environment) : Except SettingError KafkaSettings := do
  let timeout ← Settings.readOr env "KAFKA_MESSAGE_TIMEOUT_MS" standard.messageTimeout Settings.millis
  return ⟨(env "KAFKA_BOOTSTRAP_SERVERS").getD standard.bootstrapServers,
    (env "KAFKA_CLIENT_ID").getD standard.clientId, timeout⟩

end KafkaSettings

end Outbox
