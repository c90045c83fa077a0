import Outbox.Retry
import Outbox.Text.Blank

namespace Outbox

/-- How rows are leased in a database: one statement for each, or one for all of them. -/
inductive ClaimStrategy
  | perRow
  | setBased
deriving DecidableEq

namespace ClaimStrategy

def name : ClaimStrategy → String
  | .perRow => "per_row"
  | .setBased => "set_based"

def label : ClaimStrategy → String
  | .perRow => "PerRow"
  | .setBased => "SetBased"

def read (s : String) : Except String ClaimStrategy :=
  let word := Text.asciiLower (Text.trim s)
  if word ∈ ["per_row", "per-row", "perrow"] then .ok .perRow
  else if word ∈ ["set_based", "set-based", "setbased"] then .ok .setBased
  else .error ("unknown claim strategy '" ++ word ++ "'")

end ClaimStrategy

structure Settings where
  workerId : String
  topic : String
  batchSize : Nat
  lease : Duration
  idleInterval : Duration
  batchPause : Duration
  retry : RetryPolicy
  claimStrategy : ClaimStrategy
deriving DecidableEq

namespace Settings

def standard (workerId : String) : Settings where
  workerId
  topic := "accounts.outbox"
  batchSize := 50
  lease := .ofSeconds 30
  idleInterval := .ofSeconds 2
  batchPause := .ofMillis 200
  retry := .standard
  claimStrategy := .perRow

end Settings

structure KafkaSettings where
  bootstrapServers : String
  clientId : String
  messageTimeout : Duration
deriving DecidableEq

def KafkaSettings.standard : KafkaSettings := ⟨"localhost:9092", "bankrelay-outbox", .ofSeconds 5⟩

end Outbox
