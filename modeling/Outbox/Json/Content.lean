import Outbox.Json.Typed

namespace Outbox.Json

/-- A value that is kept until its type is known. -/
inductive Content
  | null
  | flag (b : Bool)
  | integer (n : Int)
  | float (digits : String)
  | text (s : String)
  | list (elements : List Content)
  | object (members : List (String × Content))

namespace Content

def found : Content → Found
  | .null => .null
  | .flag b => .flag b
  | .integer n => .integer n
  | .float digits => .float digits
  | .text s => .text s
  | .list _ => .sequence
  | .object _ => .map

def ofFound : Found → Content
  | .integer n => .integer n
  | .float digits => .float digits
  | _ => .null

mutual

def read : Nat → Nat → Reader Content
  | 0, _, cs => .error (.here .depth cs)
  | fuel + 1, depth, cs =>
    match skipSpace cs with
    | [] => .error (.next .endInValue [])
    | 'n' :: rest => (word ['u', 'l', 'l'] rest).map (.null, ·)
    | 't' :: rest => (word ['r', 'u', 'e'] rest).map (.flag true, ·)
    | 'f' :: rest => (word ['a', 'l', 's', 'e'] rest).map (.flag false, ·)
    | '"' :: rest => (stringBody rest).map fun (s, rest) => (.text s, rest)
    | '[' :: rest =>
      if depth ≤ 1 then .error (.next .depth ('[' :: rest))
      else (enclosed closeList (readElements fuel (depth - 1) true [] rest)).map fun (es, rest) => (.list es, rest)
    | '\x7b' :: rest =>
      if depth ≤ 1 then .error (.next .depth ('\x7b' :: rest))
      else (enclosed closeObject (readMembers fuel (depth - 1) true [] rest)).map fun (ms, rest) => (.object ms, rest)
    | c :: rest =>
      if c = '-' ∨ c.isDigit then (Number.read (c :: rest)).map fun (found, rest) => (ofFound found, rest)
      else .error (.next .valueWanted (c :: rest))

def readElements : Nat → Nat → Bool → List Content → List Char → Except Failure (List Content × List Char)
  | 0, _, _, _, cs => .error (.here .depth cs)
  | fuel + 1, depth, isFirst, got, cs =>
    match nextElement isFirst cs with
    | .error f => .error f
    | .ok (false, rest) => .ok (got.reverse, rest)
    | .ok (true, rest) =>
      match read fuel depth rest with
      | .error f => .error f
      | .ok (c, rest) => readElements fuel depth false (c :: got) rest

def readMembers : Nat → Nat → Bool → List (String × Content) → List Char →
    Except Failure (List (String × Content) × List Char)
  | 0, _, _, _, cs => .error (.here .depth cs)
  | fuel + 1, depth, isFirst, got, cs =>
    match nextName isFirst cs with
    | .error f => .error f
    | .ok (none, rest) => .ok (got.reverse, rest)
    | .ok (some name, rest) =>
      match colon rest with
      | .error f => .error f
      | .ok rest =>
        match read fuel depth rest with
        | .error f => .error f
        | .ok (c, rest) => readMembers fuel depth false ((name, c) :: got) rest

end

/-- Each character is one step at most, and so is each value. -/
def fuelFor (cs : List Char) : Nat := 2 * cs.length + 2

def textual {α : Type} (expected : String) (decode : String → Except Mismatch α) : Content → Except Mismatch α
  | .text s => decode s
  | c => .error (.invalidType c.found expected)

def asString : Content → Except Mismatch String := textual "a string" .ok

def asUuid : Content → Except Mismatch Uuid :=
  textual "a formatted UUID string" fun s => (Uuid.read s).mapError .uuid

def asTime : Content → Except Mismatch Time :=
  textual "an RFC 3339 formatted date and time string" fun s => (Time.read s).mapError .time

def asFlag : Content → Except Mismatch Bool
  | .flag b => .ok b
  | c => .error (.invalidType c.found "a boolean")

end Content

/-- What an object that names its variant in the member `tag` holds beside that name, or what a list
whose first element is that name holds after it. -/
inductive Tagged (κ : Type)
  | object (kind : κ) (members : List (String × Content))
  | list (kind : κ) (elements : List Content)

section Tagged

variable {κ : Type}

def taggedMembers (tag : String) (kind : Reader κ) :
    Nat → Nat → Bool → Option κ → List (String × Content) → List Char →
      Except Failure ((Option κ × List (String × Content)) × List Char)
  | 0, _, _, _, _, cs => .error (.here .depth cs)
  | fuel + 1, depth, isFirst, seen, got, cs =>
    match nextName isFirst cs with
    | .error f => .error f
    | .ok (none, rest) => .ok ((seen, got.reverse), rest)
    | .ok (some name, rest) =>
      if name = tag then
        if seen.isSome then .error (.within (.duplicateField tag) rest)
        else match colon rest with
          | .error f => .error f
          | .ok rest =>
            match kind rest with
            | .error f => .error f
            | .ok (k, rest) => taggedMembers tag kind fuel depth false (some k) got rest
      else
        match colon rest with
        | .error f => .error f
        | .ok rest =>
          match Content.read fuel depth rest with
          | .error f => .error f
          | .ok (c, rest) => taggedMembers tag kind fuel depth false seen ((name, c) :: got) rest

def tagged (expected tag : String) (kind : Reader κ) (depth : Nat) : Reader (Tagged κ) := fun cs =>
  let fuel := Content.fuelFor cs
  match skipSpace cs with
  | '\x7b' :: rest =>
    if depth ≤ 1 then .error (.next .depth ('\x7b' :: rest))
    else enclosed closeObject do
      match ← taggedMembers tag kind fuel (depth - 1) true none [] rest with
      | ((some k, members), rest) => return (.object k members, rest)
      | ((none, _), rest) => throw (.within (.missingField tag) rest)
  | '[' :: rest =>
    if depth ≤ 1 then .error (.next .depth ('[' :: rest))
    else enclosed closeList do
      match ← nextElement true rest with
      | (false, rest) => throw (.within (.missingField tag) rest)
      | (true, rest) =>
        let (k, rest) ← kind rest
        let (elements, rest) ← Content.readElements fuel (depth - 1) false [] rest
        return (.list k elements, rest)
  | cs => .error (unexpected expected cs)

def allNamed {β : Type} (got : List (String × β)) : List String → Except Mismatch (List β)
  | [] => .ok []
  | name :: names =>
    match got.lookup name with
    | some b => (allNamed got names).map (b :: ·)
    | none => .error (.missingField name)

def keptMembers {β : Type} (fields : List (String × (Content → Except Mismatch β))) :
    List (String × β) → List (String × Content) → Except Mismatch (List β)
  | got, [] => allNamed got (fields.map (·.1))
  | got, (name, c) :: rest =>
    match fields.lookup name with
    | none => keptMembers fields got rest
    | some decode =>
      if (got.lookup name).isSome then .error (.duplicateField name)
      else match decode c with
        | .ok b => keptMembers fields (got ++ [(name, b)]) rest
        | .error m => .error m

def countText (n : Nat) : String := if n = 1 then "1 element" else Text.natText n ++ " elements"

def keptElements {β : Type} (expected : String) (total : Nat) :
    Nat → List (String × (Content → Except Mismatch β)) → List Content → Except Mismatch (List β)
  | count, [], extra =>
    if extra.isEmpty then .ok []
    else .error (.invalidLength (count + extra.length) (countText count ++ " in sequence"))
  | count, _ :: _, [] => .error (.invalidLength count (expected ++ " with " ++ countText total))
  | count, (_, decode) :: fields, c :: rest =>
    match decode c with
    | .ok b => (keptElements expected total (count + 1) fields rest).map (b :: ·)
    | .error m => .error m

end Tagged

end Outbox.Json
