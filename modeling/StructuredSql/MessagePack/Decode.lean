-- Reading data from MessagePack octets: one item at the front, whatever follows
-- it left over.
import StructuredSql.Datum.Basic
import StructuredSql.Octets
import StructuredSql.Text.Utf8

namespace StructuredSql.MessagePack

/-- A number of `width` octets at the front. -/
def nat? (width : Nat) (bs : List UInt8) : Option (Nat × List UInt8) :=
  (Octets.take? width bs).map fun (front, rest) => (Octets.ofBig front, rest)

/-- A number of `width` octets at the front, in two's complement. -/
def signed? (width : Nat) (bs : List UInt8) : Option (Int × List UInt8) :=
  (nat? width bs).map fun (n, rest) =>
    (if n < Nat.pow 2 (8 * width - 1) then (n : Int) else (n : Int) - Nat.pow 2 (8 * width), rest)

/-- The text that octets were marked to be. -/
def textOf (bs : List UInt8) : Datum :=
  match Text.Utf8.decode? bs with
  | some s => .string s
  | none => .garbled

def text? (n : Nat) (bs : List UInt8) : Option (Datum × List UInt8) :=
  (Octets.take? n bs).map fun (front, rest) => (textOf front, rest)

def bytes? (n : Nat) (bs : List UInt8) : Option (Datum × List UInt8) :=
  (Octets.take? n bs).map fun (front, rest) => (.bytes front, rest)

/-- An extension: the octet of its type and its content, neither of them kept. -/
def extension? (n : Nat) (bs : List UInt8) : Option (Datum × List UInt8) :=
  (Octets.take? (n + 1) bs).map fun (_, rest) => (.extension, rest)

/-- What a marker announces. -/
inductive Head
  | item (d : Datum)
  | list (count : Nat)
  | map (count : Nat)

/-- A count of the given width, and what it counts. -/
def counted? (width : Nat) (head : Nat → List UInt8 → Option (Head × List UInt8))
    (bs : List UInt8) : Option (Head × List UInt8) :=
  (nat? width bs).bind fun (n, rest) => head n rest

def item? (read : Option (Datum × List UInt8)) : Option (Head × List UInt8) :=
  read.map fun (d, rest) => (.item d, rest)

def natItem? (width : Nat) (bs : List UInt8) : Option (Head × List UInt8) :=
  (nat? width bs).map fun (n, rest) => (.item (.int n), rest)

def middleItem? (width : Nat) (bs : List UInt8) : Option (Head × List UInt8) :=
  (nat? width bs).map fun (n, rest) => (.item (.formed .middle n), rest)

def signedItem? (width : Nat) (bs : List UInt8) : Option (Head × List UInt8) :=
  (signed? width bs).map fun (i, rest) => (.item (.formed .signed i), rest)

def listOf (n : Nat) (bs : List UInt8) : Option (Head × List UInt8) := some (.list n, bs)

def mapOf (n : Nat) (bs : List UInt8) : Option (Head × List UInt8) := some (.map n, bs)

/-- What the marker `m` announces, read from the octets behind it. One marker is
never used. -/
def head? (m : Nat) (bs : List UInt8) : Option (Head × List UInt8) :=
  if m < 0x80 then some (.item (.int m), bs)
  else if m < 0x90 then mapOf (m - 0x80) bs
  else if m < 0xa0 then listOf (m - 0x90) bs
  else if m < 0xc0 then item? (text? (m - 0xa0) bs)
  else if 0xe0 ≤ m then some (.item (.formed .signed ((m : Int) - 0x100)), bs)
  else match m with
    | 0xc0 => some (.item .null, bs)
    | 0xc2 => some (.item (.bool false), bs)
    | 0xc3 => some (.item (.bool true), bs)
    | 0xc4 => counted? 1 (fun n r => item? (bytes? n r)) bs
    | 0xc5 => counted? 2 (fun n r => item? (bytes? n r)) bs
    | 0xc6 => counted? 4 (fun n r => item? (bytes? n r)) bs
    | 0xc7 => counted? 1 (fun n r => item? (extension? n r)) bs
    | 0xc8 => counted? 2 (fun n r => item? (extension? n r)) bs
    | 0xc9 => counted? 4 (fun n r => item? (extension? n r)) bs
    | 0xca =>
      (nat? 4 bs).map fun (n, r) => (.item (.float (Double.ofSingleBits (UInt32.ofNat n))), r)
    | 0xcb => (nat? 8 bs).map fun (n, r) => (.item (.float ⟨UInt64.ofNat n⟩), r)
    | 0xcc => natItem? 1 bs
    | 0xcd => middleItem? 2 bs
    | 0xce => middleItem? 4 bs
    | 0xcf => natItem? 8 bs
    | 0xd0 => signedItem? 1 bs
    | 0xd1 => signedItem? 2 bs
    | 0xd2 => signedItem? 4 bs
    | 0xd3 => signedItem? 8 bs
    | 0xd4 => item? (extension? 1 bs)
    | 0xd5 => item? (extension? 2 bs)
    | 0xd6 => item? (extension? 4 bs)
    | 0xd7 => item? (extension? 8 bs)
    | 0xd8 => item? (extension? 16 bs)
    | 0xd9 => counted? 1 (fun n r => item? (text? n r)) bs
    | 0xda => counted? 2 (fun n r => item? (text? n r)) bs
    | 0xdb => counted? 4 (fun n r => item? (text? n r)) bs
    | 0xdc => counted? 2 listOf bs
    | 0xdd => counted? 4 listOf bs
    | 0xde => counted? 2 mapOf bs
    | 0xdf => counted? 4 mapOf bs
    | _ => none

mutual

/-- The item at the front. Each call but the last of a count reads an octet or
goes down one step, so fuel of twice the length is enough. -/
def item : Nat → List UInt8 → Option (Datum × List UInt8)
  | 0, _ => none
  | _ + 1, [] => none
  | fuel + 1, m :: bs =>
    match head? m.toNat bs with
    | none => none
    | some (.item d, rest) => some (d, rest)
    | some (.list n, rest) => (items fuel n rest).map fun (ds, r) => (.list ds, r)
    | some (.map n, rest) => (entries fuel n rest).map fun (es, r) => (.map es, r)

/-- So many items in a row. -/
def items : Nat → Nat → List UInt8 → Option (List Datum × List UInt8)
  | _, 0, bs => some ([], bs)
  | 0, _ + 1, _ => none
  | fuel + 1, n + 1, bs =>
    match item fuel bs with
    | none => none
    | some (d, rest) => (items fuel n rest).map fun (ds, r) => (d :: ds, r)

/-- So many entries in a row. -/
def entries : Nat → Nat → List UInt8 → Option (List (Datum × Datum) × List UInt8)
  | _, 0, bs => some ([], bs)
  | 0, _ + 1, _ => none
  | fuel + 1, n + 1, bs =>
    match item fuel bs with
    | none => none
    | some (k, rest) =>
      match item fuel rest with
      | none => none
      | some (d, rest) => (entries fuel n rest).map fun (es, r) => ((k, d) :: es, r)

end

/-- The item at the front and what follows it. -/
def decode? (bs : List UInt8) : Option (Datum × List UInt8) := item (2 * bs.length + 2) bs

end StructuredSql.MessagePack
