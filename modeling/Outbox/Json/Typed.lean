import Outbox.Duration
import Outbox.Id
import Outbox.Json.Chars
import Outbox.Json.Number
import Outbox.Json.Raw

namespace Outbox.Json

def unexpected (expected : String) (cs : List Char) : Failure :=
  let shown (found : Found) (rest : List Char) := Failure.here (.mismatch (.invalidType found expected)) rest
  let afterWord (found : Found) (letters rest : List Char) :=
    match word letters rest with
    | .ok rest => shown found rest
    | .error f => f
  let afterNumber (cs : List Char) :=
    match Number.read cs with
    | .ok (found, rest) => shown found rest
    | .error f => f
  match cs with
  | [] => .next .endInValue []
  | 'n' :: rest => afterWord .null ['u', 'l', 'l'] rest
  | 't' :: rest => afterWord (.flag true) ['r', 'u', 'e'] rest
  | 'f' :: rest => afterWord (.flag false) ['a', 'l', 's', 'e'] rest
  | '"' :: rest =>
    match stringBody rest with
    | .ok (s, rest) => shown (.text s) rest
    | .error f => f
  | '[' :: _ => shown .sequence cs
  | '\x7b' :: _ => shown .map cs
  | c :: _ => if c = '-' ∨ c.isDigit then afterNumber cs else .next .valueWanted cs

def textual {α : Type} (expected : String) (decode : String → Except Mismatch α) : Reader α := fun cs =>
  match skipSpace cs with
  | '"' :: rest => do
    let (s, rest) ← stringBody rest
    match decode s with
    | .ok a => return (a, rest)
    | .error m => throw (.here (.mismatch m) rest)
  | cs => .error (unexpected expected cs)

def string : Reader String := textual "a string" .ok

def uuid : Reader Uuid := textual "a formatted UUID string" fun s => (Uuid.read s).mapError .uuid

def time : Reader Time :=
  textual "an RFC 3339 formatted date and time string" fun s => (Time.read s).mapError .time

def variant {α : Type} (names : List (String × α)) : Reader α :=
  textual "variant identifier" fun s =>
    match names.lookup s with
    | some a => .ok a
    | none => .error (.unknownVariant s (names.map (·.1)))

def natural (bound : Nat) (expected : String) : Reader Nat := fun cs =>
  match skipSpace cs with
  | c :: rest =>
    if c = '-' ∨ c.isDigit then do
      match ← Number.read (c :: rest) with
      | (.integer n, rest) =>
        if 0 ≤ n ∧ n < bound then return (n.toNat, rest)
        else throw (.here (.mismatch (.invalidValue (.integer n) expected)) rest)
      | (found, rest) => throw (.here (.mismatch (.invalidType found expected)) rest)
    else .error (unexpected expected (c :: rest))
  | [] => .error (.next .endInValue [])

def word32 : Reader UInt32 := fun cs => (natural (0x1_0000_0000) "u32" cs).map fun (n, rest) => (UInt32.ofNat n, rest)

def optional {α : Type} (read : Reader α) : Reader (Option α) := fun cs =>
  match skipSpace cs with
  | 'n' :: rest => (word ['u', 'l', 'l'] rest).map (none, ·)
  | cs => (read cs).map fun (a, rest) => (some a, rest)

/-- A member of an object that says a structure. `absent` stands for it where it is left out, `short`
where the structure is written as a list that ends before it. -/
structure Slot (β : Type) where
  name : String
  read : Reader β
  absent : Option β
  short : Option β

namespace Slot

def required {β : Type} (name : String) (read : Reader β) : Slot β := ⟨name, read, none, none⟩

def nullable {β : Type} (name : String) (read : Reader β) (absent : β) : Slot β :=
  ⟨name, read, some absent, none⟩

end Slot

def colon (cs : List Char) : Except Failure (List Char) :=
  match skipSpace cs with
  | ':' :: rest => .ok rest
  | [] => .error (.next .endInObject [])
  | rest => .error (.next .colonWanted rest)

def nextName (isFirst : Bool) (cs : List Char) : Except Failure (Option String × List Char) :=
  let name (cs : List Char) : Except Failure (Option String × List Char) :=
    match cs with
    | '"' :: rest => (stringBody rest).map fun (s, rest) => (some s, rest)
    | '\x7d' :: _ => .error (.next .trailingComma cs)
    | [] => .error (.next .endInValue [])
    | _ => .error (.next .keyWanted cs)
  match skipSpace cs with
  | [] => .error (.next .endInObject [])
  | '\x7d' :: rest => .ok (none, '\x7d' :: rest)
  | c :: rest =>
    if isFirst then name (c :: rest)
    else if c = ',' then name (skipSpace rest)
    else .error (.next .objectEndWanted (c :: rest))

def nextElement (isFirst : Bool) (cs : List Char) : Except Failure (Bool × List Char) :=
  match skipSpace cs with
  | [] => .error (.next .endInList [])
  | ']' :: rest => .ok (false, ']' :: rest)
  | c :: rest =>
    if isFirst then .ok (true, c :: rest)
    else if c = ',' then
      match skipSpace rest with
      | ']' :: rest => .error (.next .trailingComma (']' :: rest))
      | [] => .error (.next .endInValue [])
      | rest => .ok (true, rest)
    else .error (.next .listEndWanted (c :: rest))

def closeObject (cs : List Char) : Except Failure (List Char) :=
  match skipSpace cs with
  | '\x7d' :: rest => .ok rest
  | ',' :: rest => .error (.next .trailingComma (',' :: rest))
  | [] => .error (.next .endInObject [])
  | rest => .error (.next .trailingCharacters rest)

def closeList (cs : List Char) : Except Failure (List Char) :=
  match skipSpace cs with
  | ']' :: rest => .ok rest
  | ',' :: rest =>
    match skipSpace rest with
    | ']' :: rest => .error (.next .trailingComma (']' :: rest))
    | rest => .error (.next .trailingCharacters rest)
  | [] => .error (.next .endInList [])
  | rest => .error (.next .trailingCharacters rest)

/-- What was read between brackets, the closing one too. A problem without a place is shown after
the closing bracket, as far as there is one. -/
def enclosed {α : Type} (close : List Char → Except Failure (List Char)) :
    Except Failure (α × List Char) → Except Failure (α × List Char)
  | .ok (a, rest) => (close rest).map (a, ·)
  | .error f =>
    match close f.rest with
    | .ok rest => .error (f.settle rest)
    | .error g => .error (f.settle g.rest)

section Structures

variable {α β : Type}

/-- The members of an object in the order of the text, up to its end, where the text has fewer characters
than `fuel`. Members of other names are passed over, or refused where `strict`. -/
def members (fields : List (Slot β)) (strict : Bool) :
    Nat → Bool → List (String × β) → List Char → Except Failure (List (String × β) × List Char)
  | 0, _, _, cs => .error (.here .depth cs)
  | fuel + 1, isFirst, got, cs =>
    match nextName isFirst cs with
    | .error f => .error f
    | .ok (none, rest) => .ok (got, rest)
    | .ok (some name, rest) =>
      match fields.find? (·.name == name) with
      | some field =>
        if (got.lookup name).isSome then .error (.within (.duplicateField name) rest)
        else match colon rest with
          | .error f => .error f
          | .ok rest =>
            match field.read rest with
            | .error f => .error f
            | .ok (b, rest) => members fields strict fuel false (got ++ [(name, b)]) rest
      | none =>
        if strict then .error (.within (.unknownField name (fields.map (·.name))) rest)
        else match colon rest with
          | .error f => .error f
          | .ok rest =>
            match Raw.value fuel rest with
            | .error f => .error f
            | .ok rest => members fields strict fuel false got rest

def inOrder (got : List (String × β)) : List (Slot β) → Except Mismatch (List β)
  | [] => .ok []
  | field :: fields =>
    match (got.lookup field.name).orElse fun _ => field.absent with
    | some b => (inOrder got fields).map (b :: ·)
    | none => .error (.missingField field.name)

def elements (full : String) : Nat → List (Slot β) → List Char → Except Failure (List β × List Char)
  | _, [], cs => .ok ([], cs)
  | index, field :: fields, cs =>
    match nextElement (index == 0) cs with
    | .error f => .error f
    | .ok (true, rest) =>
      match field.read rest with
      | .error f => .error f
      | .ok (b, rest) => (elements full (index + 1) fields rest).map fun (bs, rest) => (b :: bs, rest)
    | .ok (false, rest) =>
      match field.short with
      | some b => (elements full (index + 1) fields rest).map fun (bs, rest) => (b :: bs, rest)
      | none => .error (.within (.invalidLength index full) rest)

def built (build : List β → Except Mismatch α) (bs : List β) (rest : List Char) :
    Except Failure (α × List Char) :=
  match build bs with
  | .ok a => .ok (a, rest)
  | .error m => .error (.within m rest)

/-- An object, or a list of the values of all fields in order. -/
def record (expected full : String) (strict : Bool) (fields : List (Slot β)) (build : List β → Except Mismatch α) :
    Reader α := fun cs =>
  match skipSpace cs with
  | '\x7b' :: rest => enclosed closeObject do
    let (got, rest) ← members fields strict (rest.length + 1) true [] rest
    match inOrder got fields with
    | .ok bs => built build bs rest
    | .error m => throw (.within m rest)
  | '[' :: rest => enclosed closeList do
    let (bs, rest) ← elements full 0 fields rest
    built build bs rest
  | cs => .error (unexpected expected cs)

def items (read : Reader α) : Nat → Bool → List α → List Char → Except Failure (List α × List Char)
  | 0, _, _, cs => .error (.here .depth cs)
  | fuel + 1, isFirst, got, cs =>
    match nextElement isFirst cs with
    | .error f => .error f
    | .ok (false, rest) => .ok (got, rest)
    | .ok (true, rest) =>
      match read rest with
      | .error f => .error f
      | .ok (a, rest) => items read fuel false (a :: got) rest

def list (read : Reader α) : Reader (List α) := fun cs =>
  match skipSpace cs with
  | '[' :: rest => enclosed closeList do
    let (got, rest) ← items read (rest.length + 1) true [] rest
    return (got.reverse, rest)
  | cs => .error (unexpected "a sequence" cs)

end Structures

def durationOf : List Nat → Except Mismatch Duration
  | [seconds, nanos] =>
    match Duration.ofParts? seconds nanos with
    | some d => .ok d
    | none => .error .durationOverflow
  | _ => .error .durationOverflow

def duration : Reader Duration :=
  record "struct Duration" "struct Duration" true
    [.required "secs" (natural (0x1_0000_0000_0000_0000) "u64"), .required "nanos" (natural (0x1_0000_0000) "u32")]
    durationOf

end Outbox.Json
