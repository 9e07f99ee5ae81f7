-- UTF-8: the bytes of a text, the text of well-formed bytes, and the text of
-- any bytes, where what is malformed becomes replacement characters.

namespace StructuredSql.Text.Utf8

def encode (s : String) : List UInt8 := s.toUTF8.data.toList

/-- Well-formed bytes only. -/
def decode? (bytes : List UInt8) : Option String := String.fromUTF8? ⟨bytes.toArray⟩

/-- A character whose first bytes have been read: the continuation bytes still
owed, the range of the next one, and the code point so far. -/
structure Partial where
  owed : Nat
  low : Nat
  high : Nat
  code : Nat
deriving DecidableEq

/-- What a byte between characters opens. -/
inductive Opening
  | whole (c : Char)
  | more (p : Partial)
  | malformed

def opening (b : UInt8) : Opening :=
  let n := b.toNat
  if n < 0x80 then .whole (Char.ofNat n)
  else if 0xC2 ≤ n ∧ n ≤ 0xDF then .more ⟨1, 0x80, 0xBF, n - 0xC0⟩
  else if n = 0xE0 then .more ⟨2, 0xA0, 0xBF, 0⟩
  else if n = 0xED then .more ⟨2, 0x80, 0x9F, 0xD⟩
  else if 0xE1 ≤ n ∧ n ≤ 0xEF then .more ⟨2, 0x80, 0xBF, n - 0xE0⟩
  else if n = 0xF0 then .more ⟨3, 0x90, 0xBF, 0⟩
  else if 0xF1 ≤ n ∧ n ≤ 0xF3 then .more ⟨3, 0x80, 0xBF, n - 0xF0⟩
  else if n = 0xF4 then .more ⟨3, 0x80, 0x8F, 4⟩
  else .malformed

/-- The character that stands for malformed bytes. -/
def replacement : Char := '\uFFFD'

/-- A byte between characters: what it writes, and the character it opens. -/
def startChar (b : UInt8) : List Char × Option Partial :=
  match opening b with
  | .whole c => ([c], none)
  | .more p => ([], some p)
  | .malformed => ([replacement], none)

/-- One byte. A byte that cannot continue an open character closes it as
malformed and is read again between characters. -/
def lossyStep (open? : Option Partial) (b : UInt8) : List Char × Option Partial :=
  match open? with
  | none => startChar b
  | some p =>
    if p.low ≤ b.toNat ∧ b.toNat ≤ p.high then
      let code := p.code * 64 + (b.toNat - 0x80)
      if p.owed = 1 then ([Char.ofNat code], none)
      else ([], some ⟨p.owed - 1, 0x80, 0xBF, code⟩)
    else
      let (out, next) := startChar b
      (replacement :: out, next)

def lossyFrom (open? : Option Partial) : List UInt8 → List Char
  | [] => if open?.isSome then [replacement] else []
  | b :: rest =>
    let (out, next) := lossyStep open? b
    out ++ lossyFrom next rest

/-- Any bytes as text: each malformed run that could begin a character becomes
one replacement character. -/
def decodeLossy (bytes : List UInt8) : String := String.ofList (lossyFrom none bytes)

end StructuredSql.Text.Utf8
