import Outbox.Postgres.Dialogue
import Outbox.Proofs.Postgres.Command

namespace Outbox.Postgres.Sql

abbrev Tuple := Field → Param

/-- How two values compare. With NULL nothing does, and texts are never put in order here. -/
def compare? : Param → Param → Option Ordering
  | .uuid a, .uuid b => some (compare a.value b.value)
  | .time a, .time b => some (compare a.rank b.rank)
  | .number a, .number b => some (compare a b)
  | _, _ => none

def Comparison.admits : Comparison → Ordering → Bool
  | .eq => Ordering.isEq
  | .lt => Ordering.isLT
  | .le => Ordering.isLE
  | .gt => Ordering.isGT
  | .ge => Ordering.isGE

def Operand.value (ps : List Param) : Operand → Param
  | .param n => ps.getD (n - 1) .null
  | .null => .null
  | .zero => .number 0

def both : Option Bool → Option Bool → Option Bool
  | some true, b => b
  | some false, _ => some false
  | none, b => if b = some false then b else none

def either : Option Bool → Option Bool → Option Bool
  | some false, b => b
  | some true, _ => some true
  | none, b => if b = some true then b else none

/-- The truth of a condition. `none` is unknown. -/
def Condition.truth (ps : List Param) (t : Tuple) : Condition → Option Bool
  | .isNull f => some (t f = .null)
  | .isNotNull f => some (t f ≠ .null)
  | .compare f c o => (compare? (t f) (o.value ps)).map c.admits
  | .and a b => both (a.truth ps t) (b.truth ps t)
  | .or a b => either (a.truth ps t) (b.truth ps t)

/-- Only what is true is selected, and not what is unknown. -/
def Condition.selects (ps : List Param) (c : Condition) (t : Tuple) : Bool := c.truth ps t == some true

/-- Ascending in one field after another, with NULL at the end. -/
def precedes : List Field → Tuple → Tuple → Bool
  | [], _, _ => true
  | f :: fs, a, b =>
    match compare? (a f) (b f) with
    | some .lt => true
    | some .eq => precedes fs a b
    | some .gt => false
    | none => if a f = b f then precedes fs a b else b f = .null

/-- The rows of a query. To a single client no row is ever locked by another, so that its locks say nothing. -/
def Query.rows (ps : List Param) (q : Query) (table : List Tuple) : List Tuple :=
  let found := (table.filter (q.condition.selects ps)).mergeSort (precedes q.order)
  match q.limit.map fun n => Operand.value ps (.param n) with
  | some (.number n) => found.take n
  | _ => found

def Scope.covers (ps : List Param) (table : List Tuple) : Scope → Tuple → Bool
  | .where c, t => c.selects ps t
  | .idIn q, t => (q.rows ps table).any fun u => compare? (t .id) (u .id) == some .eq

def assign (ps : List Param) : List (Field × Operand) → Tuple → Tuple
  | [], t => t
  | (f, o) :: assignments, t => assign ps assignments fun g => if g = f then o.value ps else t g

def notNullViolation : String := "23502"

def checkViolation : String := "23514"

def stringTooLong : String := "22001"

def integerOutOfRange : String := "22003"

def typeMismatch : String := "42804"

def Field.flaw? (f : Field) (v : Param) : Option Failure :=
  match f.domain, v with
  | _, .null =>
    if f.isRequired then
      some (.database notNullViolation ("null value in column \"" ++ f.name ++ "\" of relation \"" ++ tableName ++
        "\" violates not-null constraint"))
    else none
  | .varchar limit, .text s =>
    if s.length ≤ limit then none
    else some (.database stringTooLong ("value too long for type character varying(" ++ toString limit ++ ")"))
  | .integer, .number n =>
    if n ≤ largestInteger then none else some (.database integerOutOfRange "integer out of range")
  | .uuid, .uuid _ | .timestamp, .time _ | .text, .text _ => none
  | _, _ => some (.database typeMismatch ("column \"" ++ f.name ++ "\" is of another type"))

def Tuple.flaw? (t : Tuple) : Option Failure :=
  (Field.all.findSome? fun f => f.flaw? (t f)).or <| constraints.findSome? fun (name, c) =>
    if c.truth [] t = some false then
      some (.database checkViolation ("new row for relation \"" ++ tableName ++ "\" violates check constraint \"" ++
        name ++ "\""))
    else none

def duplicate : Failure :=
  .database uniqueViolation ("duplicate key value violates unique constraint \"" ++ tableName ++ "_pkey\"")

def flaw? (table : List Tuple) : Option Failure :=
  (table.findSome? Tuple.flaw?).or (if (table.map (· .id)).Nodup then none else some duplicate)

def accept (table : List Tuple) (result : Result) : Except Failure (Result × List Tuple) :=
  match flaw? table with
  | some e => .error e
  | none => .ok (result, table)

def uuidColumn : Param → Column Uuid
  | .uuid u => .value u
  | _ => .null

def timeColumn : Param → Column Time
  | .time t => .value t
  | _ => .null

def textColumn : Param → Column String
  | .text s => .value s
  | _ => .null

def numberColumn : Param → Column Int
  | .number n => .value n
  | _ => .null

def record (fields : List Field) (t : Tuple) : Record :=
  let column {α : Type} (f : Field) (read : Param → Column α) : Column α :=
    if fields.contains f then read (t f) else .missing
  { id := column .id uuidColumn, occurredAt := column .occurredAt timeColumn
    createdAt := column .createdAt timeColumn, type := column .type textColumn
    payload := column .payload textColumn, correlationId := column .correlationId textColumn
    aggregateId := column .aggregateId textColumn, key := column .key textColumn
    processedAt := column .processedAt timeColumn, error := column .error textColumn
    attempts := column .attempts numberColumn, nextAttemptAt := column .nextAttemptAt timeColumn
    lockedBy := column .lockedBy textColumn, lockedUntil := column .lockedUntil timeColumn
    deadLetteredAt := column .deadLetteredAt timeColumn
    pending := .missing, leased := .missing, retrying := .missing, processed := .missing, deadLettered := .missing }

def tally (ps : List Param) (counters : List (Outbox.Store.State × Condition)) (table : List Tuple) : Record :=
  let column (state : Outbox.Store.State) : Column Int :=
    match counters.find? (·.1 = state) with
    | some (_, c) => .value (table.countP (c.selects ps))
    | none => .missing
  { record [] (fun _ => .null) with
    pending := column .pending, leased := column .leased, retrying := column .retrying
    processed := column .processed, deadLettered := column .deadLettered }

def fresh (now : Time) (ps : List Param) (fields : List Field) : Tuple := fun f =>
  match fields.idxOf? f with
  | some n => Operand.value ps (.param (n + 1))
  | none => f.standard now

def Work.run (now : Time) (ps : List Param) (table : List Tuple) : Work → Except Failure (Result × List Tuple)
  | .insert fields => accept (table ++ [fresh now ps fields]) ⟨[], 1⟩
  | .select q =>
    let found := q.rows ps table
    .ok (⟨found.map (record q.fields), found.length⟩, table)
  | .present c =>
    let found := table.filter (c.selects ps)
    .ok (⟨found.map (record []), found.length⟩, table)
  | .update assignments scope returning =>
    let covered := scope.covers ps table
    let written := (table.filter covered).map (assign ps assignments)
    accept (table.map fun t => if covered t then assign ps assignments t else t)
      ⟨if returning.isEmpty then [] else written.map (record returning), written.length⟩
  | .delete c =>
    .ok (⟨[], table.countP (c.selects ps)⟩, table.filter fun t => !c.selects ps t)
  | .count counters => .ok (⟨[tally ps counters table], 1⟩, table)

/-- A transaction keeps the table it began with, which it goes back to unless it is committed. One that has
failed takes no more work. -/
inductive Transaction
  | none
  | open (before : List Tuple)
  | failed (before : List Tuple)

structure Database where
  table : List Tuple
  transaction : Transaction
  served : Nat

/-- What a server is free to choose each time: the order in which it comes upon the rows. Its clock is its own. -/
structure Engine where
  scan : Nat → List Tuple → List Tuple
  scan_perm : ∀ n table, (scan n table).Perm table
  clock : Nat → Time

namespace Database

def empty : Database := ⟨[], .none, 0⟩

def abortedTransaction : Failure :=
  .database "25P02" "current transaction is aborted, commands ignored until end of transaction block"

def unsupported : Failure := .database "0A000" "statement is not supported"

def nothing : Reply := .ok ⟨[], 0⟩

def fail (db : Database) : Database :=
  match db.transaction with
  | .open before => { db with transaction := .failed before }
  | _ => db

def work (e : Engine) (ps : List Param) (w : Work) (db : Database) : Reply × Database :=
  match db.transaction with
  | .failed _ => (.error abortedTransaction, db)
  | _ =>
    match w.run (e.clock db.served) ps (e.scan db.served db.table) with
    | .ok (result, table) => (.ok result, { db with table })
    | .error f => (.error f, db.fail)

def start (db : Database) : Database :=
  match db.transaction with
  | .none => { db with transaction := .open db.table }
  | _ => db

def rollback (db : Database) : Database :=
  match db.transaction with
  | .none => db
  | .open before | .failed before => { db with table := before, transaction := .none }

def commit (db : Database) : Database :=
  match db.transaction with
  | .failed _ => db.rollback
  | _ => { db with transaction := .none }

def obey (e : Engine) (ps : List Param) (c : Command) (db : Database) : Reply × Database :=
  match c with
  | .begin => (nothing, db.start)
  | .commit => (nothing, db.commit)
  | .rollback => (nothing, db.rollback)
  | .work w => db.work e ps w

def answer (e : Engine) (s : Statement) : StateM Database Reply := fun db =>
  let (reply, db') := match s.command? with
    | some c => db.obey e s.params c
    | none => (.error unsupported, db.fail)
  (reply, { db' with served := db.served + 1 })

def hold {α : Type} (e : Engine) (d : Dialogue α) (db : Database) : α × Database :=
  d.perform (answer e) (fun s => do let _ ← answer e s) (fun _ => pure ()) db

end Database

end Outbox.Postgres.Sql
