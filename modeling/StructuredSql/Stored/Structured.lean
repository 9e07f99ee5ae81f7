-- Structured text: containers as one text, in which every string carries its
-- length in bytes and every container its number of entries. A list is a map
-- whose keys count up from zero.
import StructuredSql.Value.View

namespace StructuredSql.Structured

/-! ## Writing -/

def natChars (n : Nat) : List Char := (Nat.repr n).toList

def intChars (i : Int) : List Char := (toString i).toList

/-- A string behind its length in bytes. -/
def stringChars (s : String) : List Char :=
  's' :: ':' :: (natChars s.utf8ByteSize ++ ':' :: '"' :: (s.toList ++ ['"', ';']))

def integerChars (i : Int) : List Char := 'i' :: ':' :: (intChars i ++ [';'])

/-- The whole number that a key spells as it would be printed. -/
def integerKey? (key : String) : Option Int64 :=
  match Text.readInt64? key.toList with
  | some i => if toString i.toInt = key then some i else none
  | none => none

def keyChars (key : String) : List Char :=
  match integerKey? key with
  | some i => integerChars i.toInt
  | none => stringChars key

/-- The head of a container with so many entries. -/
def openChars (count : Nat) : List Char := 'a' :: ':' :: (natChars count ++ [':', '{'])

mutual

/-- The text of a value in front of more text. -/
def charsBefore : Value → List Char → List Char
  | .null, after => 'N' :: ';' :: after
  | .bool b, after => 'b' :: ':' :: (if b then '1' else '0') :: ';' :: after
  | .int i, after => integerChars i.toInt ++ after
  | .float x, after => 'd' :: ':' :: (x.toText.toList ++ ';' :: after)
  | .string s, after => stringChars s ++ after
  | .bytes bs, after => stringChars (Text.Utf8.decodeLossy bs) ++ after
  | .array items, after => openChars items.length ++ itemsBefore 0 items ('}' :: after)
  | .object fields, after => openChars fields.length ++ fieldsBefore fields ('}' :: after)
  | .raw ⟨sql, _⟩, after => stringChars sql ++ after
termination_by structural v => v

/-- Items under their positions. -/
def itemsBefore (position : Nat) : List Value → List Char → List Char
  | [], after => after
  | v :: rest, after =>
    integerChars position ++ charsBefore v (itemsBefore (position + 1) rest after)
termination_by structural items => items

def fieldsBefore : List (String × Value) → List Char → List Char
  | [], after => after
  | (k, v) :: rest, after => keyChars k ++ charsBefore v (fieldsBefore rest after)
termination_by structural fields => fields

end

/-- The structured text of a value. -/
def print (v : Value) : String := String.ofList (charsBefore v [])

/-! ## Reading -/

/-- What stands before the first `stop`, and what follows it. -/
def until? (stop : Char) : List Char → Option (List Char × List Char)
  | [] => none
  | c :: s =>
    if c = stop then some ([], s)
    else (until? stop s).map fun (before, after) => (c :: before, after)

/-- Whole characters that make up so many bytes, and what follows them. -/
def takeBytes? : Nat → List Char → Option (List Char × List Char)
  | 0, s => some ([], s)
  | _ + 1, [] => none
  | n + 1, c :: s =>
    if c.utf8Size ≤ n + 1 then
      (takeBytes? (n + 1 - c.utf8Size) s).map fun (before, after) => (c :: before, after)
    else none

/-- A string behind its tag. -/
def string? (s : List Char) : Option (Value × List Char) := do
  let (digits, s) ← until? ':' s
  let count ← Text.readCount? digits
  match s with
  | '"' :: s =>
    match ← takeBytes? count s with
    | (text, '"' :: ';' :: rest) => some (.string (String.ofList text), rest)
    | _ => none
  | _ => none

/-- A key of a container. -/
inductive Key
  | integer (i : Int64)
  | string (s : String)
deriving DecidableEq

def Key.ofValue? : Value → Option Key
  | .int i => some (.integer i)
  | .string s => some (.string s)
  | _ => none

def Key.text : Key → String
  | integer i => toString i.toInt
  | string s => s

/-- The keys count up from `start`. -/
def countsFrom (start : Nat) : List (Key × Value) → Bool
  | [] => true
  | (k, _) :: rest => k == .integer (Int64.ofNat start) && countsFrom (start + 1) rest

/-- A list if the keys count up from zero, else a map. -/
def container (pairs : List (Key × Value)) : Value :=
  if countsFrom 0 pairs then .array (pairs.map (·.2))
  else .object (Entries.ofPairs (pairs.map fun p => (p.1.text, p.2)))

/-- So many entries, each a key and a value that `inner` reads. -/
def entries? (inner : List Char → Option (Value × List Char)) :
    Nat → List Char → Option (List (Key × Value) × List Char)
  | 0, s => some ([], s)
  | n + 1, s => do
    let (k, s) ← inner s
    let key ← Key.ofValue? k
    let (v, s) ← inner s
    let (rest, s) ← entries? inner n s
    return ((key, v) :: rest, s)

/-- The value at the head of the text, and what follows it. Containers may nest
`depth` deep. -/
def value? (depth : Nat) (s : List Char) : Option (Value × List Char) :=
  match s with
  | 'N' :: ';' :: s => some (.null, s)
  | 'b' :: ':' :: s =>
    match until? ';' s with
    | some (['0'], s) => some (.bool false, s)
    | some (['1'], s) => some (.bool true, s)
    | _ => none
  | 'i' :: ':' :: s => do
    let (digits, s) ← until? ';' s
    let i ← Text.readInt64? digits
    return (.int i, s)
  | 'd' :: ':' :: s => do
    let (digits, s) ← until? ';' s
    let x ← Text.readDouble? digits
    return (.float x, s)
  | 's' :: ':' :: s => string? s
  | 'a' :: ':' :: s =>
    match depth with
    | 0 => none
    | depth + 1 => do
      let (digits, s) ← until? ':' s
      let count ← Text.readCount? digits
      match s with
      | '{' :: s =>
        match ← entries? (value? depth) count s with
        | (pairs, '}' :: rest) => some (container pairs, rest)
        | _ => none
      | _ => none
  | _ => none

/-- The value of a structured text. No text nests deeper than it is long. -/
def parse? (text : String) : Option Value :=
  let s := text.toList
  match value? s.length s with
  | some (v, []) => some v
  | _ => none

end StructuredSql.Structured
