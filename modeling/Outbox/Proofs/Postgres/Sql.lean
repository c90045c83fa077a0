import Outbox.Postgres.Statement
import Outbox.Store

namespace Outbox.Postgres.Sql

inductive Field
  | id
  | occurredAt
  | createdAt
  | type
  | payload
  | correlationId
  | aggregateId
  | key
  | processedAt
  | error
  | attempts
  | nextAttemptAt
  | lockedBy
  | lockedUntil
  | deadLetteredAt
deriving DecidableEq

inductive Domain
  | uuid
  | timestamp
  | varchar (limit : Nat)
  | text
  | integer

namespace Field

def all : List Field :=
  [.id, .occurredAt, .createdAt, .type, .payload, .correlationId, .aggregateId, .key, .processedAt, .error, .attempts,
    .nextAttemptAt, .lockedBy, .lockedUntil, .deadLetteredAt]

def name : Field → String
  | .id => "id"
  | .occurredAt => "occurred_at"
  | .createdAt => "created_at"
  | .type => "type"
  | .payload => "payload"
  | .correlationId => "correlation_id"
  | .aggregateId => "aggregate_id"
  | .key => "key"
  | .processedAt => "processed_at"
  | .error => "error"
  | .attempts => "attempts"
  | .nextAttemptAt => "next_attempt_at"
  | .lockedBy => "locked_by"
  | .lockedUntil => "locked_until"
  | .deadLetteredAt => "dead_lettered_at"

def domain : Field → Domain
  | .id => .uuid
  | .occurredAt | .createdAt | .processedAt | .nextAttemptAt | .lockedUntil | .deadLetteredAt => .timestamp
  | .type => .varchar 512
  | .payload => .text
  | .correlationId | .aggregateId | .key | .lockedBy => .varchar 128
  | .error => .varchar 4000
  | .attempts => .integer

def isRequired : Field → Bool
  | .id | .occurredAt | .createdAt | .type | .payload | .attempts => true
  | _ => false

end Field

inductive Comparison
  | eq
  | lt
  | le
  | gt
  | ge

inductive Operand
  | param (n : Nat)
  | null
  | zero

inductive Condition
  | isNull (f : Field)
  | isNotNull (f : Field)
  | compare (f : Field) (c : Comparison) (o : Operand)
  | and (a b : Condition)
  | or (a b : Condition)

inductive Lock
  | forUpdate
  | skipLocked

/-- A SELECT, in ascending order of one field after another. The limit is a parameter. -/
structure Query where
  fields : List Field
  condition : Condition
  order : List Field
  limit : Option Nat
  lock : Option Lock

/-- The rows that an UPDATE is for: those that meet a condition, or those whose ids a query finds. -/
inductive Scope
  | where (c : Condition)
  | idIn (q : Query)

inductive Work
  | insert (fields : List Field)
  | select (q : Query)
  | present (c : Condition)
  | update (assignments : List (Field × Operand)) (scope : Scope) (returning : List Field)
  | delete (c : Condition)
  | count (counters : List (Outbox.Store.State × Condition))

inductive Command
  | begin
  | commit
  | rollback
  | work (w : Work)

def bracketed (words : List String) : List String := "(" :: words ++ [")"]

def listed (items : List (List String)) : List String := [","].intercalate items

def placeholder (n : Nat) : String := "$" ++ toString n

def tableName : String := "outbox_messages"

def Domain.words : Domain → List String
  | .uuid => ["uuid"]
  | .timestamp => ["timestamptz"]
  | .varchar limit => "varchar" :: bracketed [toString limit]
  | .text => ["text"]
  | .integer => ["integer"]

def Comparison.symbol : Comparison → String
  | .eq => "="
  | .lt => "<"
  | .le => "<="
  | .gt => ">"
  | .ge => ">="

def Operand.word : Operand → String
  | .param n => placeholder n
  | .null => "NULL"
  | .zero => "0"

def Condition.isOr : Condition → Bool
  | .or .. => true
  | _ => false

def Condition.words : Condition → List String
  | .isNull f => [f.name, "IS", "NULL"]
  | .isNotNull f => [f.name, "IS", "NOT", "NULL"]
  | .compare f c o => [f.name, c.symbol, o.word]
  | .and a b =>
    (if a.isOr then bracketed a.words else a.words) ++ "AND" :: (if b.isOr then bracketed b.words else b.words)
  | .or a b => a.words ++ "OR" :: b.words

def Lock.words : Lock → List String
  | .forUpdate => ["FOR", "UPDATE"]
  | .skipLocked => ["FOR", "UPDATE", "SKIP", "LOCKED"]

def names (fields : List Field) : List String := listed (fields.map fun f => [f.name])

def fromWhere (c : Condition) : List String := "FROM" :: tableName :: "WHERE" :: c.words

def Query.words (q : Query) : List String :=
  "SELECT" :: names q.fields ++ fromWhere q.condition ++
    (if q.order.isEmpty then [] else "ORDER" :: "BY" :: listed (q.order.map fun f => [f.name, "ASC"])) ++
    (q.limit.elim [] fun n => ["LIMIT", placeholder n]) ++ q.lock.elim [] Lock.words

def Scope.words : Scope → List String
  | .where c => "WHERE" :: c.words
  | .idIn q => "WHERE" :: "id" :: "IN" :: bracketed q.words

def counterName : Outbox.Store.State → String
  | .pending => "pending"
  | .leased => "leased"
  | .retrying => "retrying"
  | .processed => "processed"
  | .deadLettered => "dead_lettered"

def counterWords (name : String) (c : Condition) : List String :=
  ["COUNT", "(", "*", ")", "FILTER"] ++ bracketed ("WHERE" :: c.words) ++ ["AS", name]

def Work.words : Work → List String
  | .insert fields =>
    "INSERT" :: "INTO" :: tableName :: bracketed (names fields) ++
      "VALUES" :: bracketed (listed ((List.range fields.length).map fun n => [placeholder (n + 1)]))
  | .select q => q.words
  | .present c => ["SELECT", "1", "AS", "present"] ++ fromWhere c
  | .update assignments scope returning =>
    "UPDATE" :: tableName :: "SET" :: listed (assignments.map fun (f, o) => [f.name, "=", o.word]) ++ scope.words ++
      if returning.isEmpty then [] else "RETURNING" :: names returning
  | .delete c => "DELETE" :: fromWhere c
  | .count counters =>
    "SELECT" :: listed (counters.map fun (state, c) => counterWords (counterName state) c) ++ ["FROM", tableName]

def Command.words : Command → List String
  | .begin => ["BEGIN"]
  | .commit => ["COMMIT"]
  | .rollback => ["ROLLBACK"]
  | .work w => w.words

def constraints : List (String × Condition) :=
  [("outbox_messages_attempts_non_negative", .compare .attempts .ge .zero),
    ("outbox_messages_single_terminal_state", .or (.isNull .processedAt) (.isNull .deadLetteredAt))]

/-- The value of a field that an INSERT leaves out, given the time. -/
def Field.standard (now : Time) : Field → Param
  | .createdAt => .time now
  | .attempts => .number 0
  | _ => .null

def Field.words (f : Field) : List String :=
  let rest := match f with
    | .id => ["PRIMARY", "KEY"]
    | .createdAt => ["NOT", "NULL", "DEFAULT", "NOW", "(", ")"]
    | .attempts => ["NOT", "NULL", "DEFAULT", "0"]
    | f => if f.isRequired then ["NOT", "NULL"] else ["NULL"]
  f.name :: f.domain.words ++ rest

def tableWords : List String :=
  ["CREATE", "TABLE", "IF", "NOT", "EXISTS", tableName] ++ bracketed (listed (Field.all.map Field.words ++
    constraints.map fun (name, c) => "CONSTRAINT" :: name :: "CHECK" :: bracketed c.words))

def wordOf (cs : List Char) : List String := if cs.isEmpty then [] else [String.ofList cs.reverse]

/-- The words of a text, of which the first has begun. Brackets, commas and semicolons are words of their own. -/
def wordsFrom : List Char → List Char → List String
  | begun, [] => wordOf begun
  | begun, c :: cs =>
    if Text.isBlank c then wordOf begun ++ wordsFrom [] cs
    else if ['(', ')', ',', ';'].contains c then wordOf begun ++ String.singleton c :: wordsFrom [] cs
    else wordsFrom (c :: begun) cs

def words (sql : String) : List String := wordsFrom [] sql.toList

theorem append_ofList {a b : String} {cs ds : List Char} (ha : a = String.ofList cs) (hb : b = String.ofList ds) :
    a ++ b = String.ofList (cs ++ ds) := by
  rw [ha, hb, String.ofList_append]

theorem words_ofList {sql : String} {cs : List Char} {ws : List String} (h : sql = String.ofList cs)
    (hws : wordsFrom [] cs = ws) : words sql = ws := by
  rw [words, h, String.toList_ofList, hws]

theorem infix_words_ofList {sql : String} {cs : List Char} {ws : List String} (h : sql = String.ofList cs)
    (hws : ws <:+: wordsFrom [] cs) : ws <:+: words sql := by
  rwa [words, h, String.toList_ofList]

end Outbox.Postgres.Sql
