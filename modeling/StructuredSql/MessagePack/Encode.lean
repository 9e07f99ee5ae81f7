-- Data as MessagePack octets, each item in its shortest form; floats always
-- take 64 bits.
import StructuredSql.Datum.Basic
import StructuredSql.Octets
import StructuredSql.Text.Utf8

namespace StructuredSql.MessagePack

/-- A marker and a number of fixed width behind it. -/
def marked (marker : UInt8) (width n : Nat) : List UInt8 := marker :: Octets.big width n

/-- A whole number. -/
def int (i : Int) : List UInt8 :=
  if 0 ≤ i then
    let n := i.toNat
    if n < 0x80 then [UInt8.ofNat n]
    else if n < 0x100 then marked 0xcc 1 n
    else if n < 0x10000 then marked 0xcd 2 n
    else if n < 0x100000000 then marked 0xce 4 n
    else marked 0xcf 8 n
  else if -0x20 ≤ i then [UInt8.ofNat (0x100 + i).toNat]
  else if -0x80 ≤ i then marked 0xd0 1 (0x100 + i).toNat
  else if -0x8000 ≤ i then marked 0xd1 2 (0x10000 + i).toNat
  else if -0x80000000 ≤ i then marked 0xd2 4 (0x100000000 + i).toNat
  else marked 0xd3 8 (0x10000000000000000 + i).toNat

/-- The head of a text of `n` octets. -/
def textHead (n : Nat) : List UInt8 :=
  if n < 32 then [UInt8.ofNat (0xa0 + n)]
  else if n < 0x100 then marked 0xd9 1 n
  else if n < 0x10000 then marked 0xda 2 n
  else marked 0xdb 4 n

/-- The head of `n` plain octets. -/
def bytesHead (n : Nat) : List UInt8 :=
  if n < 0x100 then marked 0xc4 1 n
  else if n < 0x10000 then marked 0xc5 2 n
  else marked 0xc6 4 n

/-- The head of a list of `n` items. -/
def listHead (n : Nat) : List UInt8 :=
  if n < 16 then [UInt8.ofNat (0x90 + n)]
  else if n < 0x10000 then marked 0xdc 2 n
  else marked 0xdd 4 n

/-- The head of a map of `n` entries. -/
def mapHead (n : Nat) : List UInt8 :=
  if n < 16 then [UInt8.ofNat (0x80 + n)]
  else if n < 0x10000 then marked 0xde 2 n
  else marked 0xdf 4 n

def text (s : String) : List UInt8 :=
  let bs := Text.Utf8.encode s
  textHead bs.length ++ bs

mutual

/-- The octets of data. A garbled text and an extension have no content of their own
here. -/
def encode : Datum → List UInt8
  | .null => [0xc0]
  | .bool b => [if b then 0xc3 else 0xc2]
  | .int i => int i
  | .formed _ i => int i
  | .float x => marked 0xcb 8 x.bits.toNat
  | .string s => text s
  | .bytes bs => bytesHead bs.length ++ bs
  | .garbled => textHead 1 ++ [0xff]
  | .list items => listHead items.length ++ encodeItems items
  | .map entries => mapHead entries.length ++ encodeEntries entries
  | .extension => [0xd4, 0, 0]
termination_by structural d => d

def encodeItems : List Datum → List UInt8
  | [] => []
  | d :: rest => encode d ++ encodeItems rest
termination_by structural items => items

def encodeEntries : List (Datum × Datum) → List UInt8
  | [] => []
  | (k, d) :: rest => encode k ++ encode d ++ encodeEntries rest
termination_by structural entries => entries

end

end StructuredSql.MessagePack
