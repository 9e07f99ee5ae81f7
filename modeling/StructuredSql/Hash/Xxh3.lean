-- The 64-bit XXH3 hash with the standard secret and seed zero. Short, middle
-- and long inputs are mixed in ways of their own.
import StructuredSql.Octets

namespace StructuredSql.Hash.Xxh3

/-! ## Constants -/

def prime32a : UInt64 := 0x9E3779B1
def prime32b : UInt64 := 0x85EBCA77
def prime32c : UInt64 := 0xC2B2AE3D
def prime64a : UInt64 := 0x9E3779B185EBCA87
def prime64b : UInt64 := 0xC2B2AE3D27D4EB4F
def prime64c : UInt64 := 0x165667B19E3779F9
def prime64d : UInt64 := 0x85EBCA77C2B2AE63
def prime64e : UInt64 := 0x27D4EB2F165667C5

/-- The standard secret, as words of eight octets. -/
def secretWords : List Nat :=
  [0xbe4ba423396cfeb8, 0x1cad21f72c81017c, 0xdb979083e96dd4de, 0x1f67b3b7a4a44072,
    0x78e5c0cc4ee679cb, 0x2172ffcc7dd05a82, 0x8e2443f7744608b8, 0x4c263a81e69035e0,
    0xcb00c391bb52283c, 0xa32e531b8b65d088, 0x4ef90da297486471, 0xd8acdea946ef1938,
    0x3f349ce33f76faa8, 0x1d4f0bc7c7bbdcf9, 0x3159b4cd4be0518a, 0x647378d9c97e9fc8,
    0xc3ebd33483acc5ea, 0xeb6313faffa081c5, 0x49daf0b751dd0d17, 0x9e68d429265516d3,
    0xfca1477d58be162b, 0xce31d07ad1b8f88f, 0x280416958f3acb45, 0x7e404bbbcafbd7af]

def secret : List UInt8 := secretWords.flatMap (Octets.little 8)

/-! ## Mixing -/

/-- The word of `width` octets at a position. -/
def wordOf (width : Nat) (bs : List UInt8) (i : Nat) : UInt64 :=
  UInt64.ofNat (Octets.ofLittle ((bs.drop i).take width))

/-- The word of eight octets at a position. -/
def word (bs : List UInt8) (i : Nat) : UInt64 := wordOf 8 bs i

/-- The two halves of the full product, folded together. -/
def foldProduct (a b : UInt64) : UInt64 :=
  let p := a.toNat * b.toNat
  UInt64.ofNat p ^^^ UInt64.ofNat (p / Nat.pow 2 64)

def avalanche (h : UInt64) : UInt64 :=
  let h := h ^^^ (h >>> 37)
  let h := h * 0x165667919E3779F9
  h ^^^ (h >>> 32)

/-- The avalanche of the shortest inputs. -/
def shortAvalanche (h : UInt64) : UInt64 :=
  let h := h ^^^ (h >>> 33)
  let h := h * prime64b
  let h := h ^^^ (h >>> 29)
  let h := h * prime64c
  h ^^^ (h >>> 32)

def rotateLeft (h : UInt64) (n : UInt64) : UInt64 := (h <<< n) ||| (h >>> (64 - n))

/-- The octets of a word in the other order. -/
def reversed (h : UInt64) : UInt64 := UInt64.ofNat (Octets.ofBig (Octets.little 8 h.toNat))

/-- Sixteen octets of input with sixteen of the secret. -/
def mix (bs : List UInt8) (i k : Nat) : UInt64 :=
  foldProduct (word bs i ^^^ word secret k) (word bs (i + 8) ^^^ word secret (k + 8))

def sum (ws : List UInt64) : UInt64 := ws.foldl (· + ·) 0

/-! ## Short inputs -/

/-- One to three octets. -/
def hashTo3 (bs : List UInt8) : UInt64 :=
  let n := bs.length
  let first := wordOf 1 bs 0
  let middle := wordOf 1 bs (n / 2)
  let last := wordOf 1 bs (n - 1)
  let combined := (first <<< 16) ||| (middle <<< 24) ||| last ||| (UInt64.ofNat n <<< 8)
  shortAvalanche (combined ^^^ wordOf 4 secret 0 ^^^ wordOf 4 secret 4)

/-- Four to eight octets. -/
def hashTo8 (bs : List UInt8) : UInt64 :=
  let n := bs.length
  let combined := wordOf 4 bs (n - 4) + (wordOf 4 bs 0 <<< 32)
  let h := combined ^^^ (word secret 8 ^^^ word secret 16)
  let h := h ^^^ rotateLeft h 49 ^^^ rotateLeft h 24
  let h := h * 0x9FB21C651E98DF25
  let h := h ^^^ ((h >>> 35) + UInt64.ofNat n)
  let h := h * 0x9FB21C651E98DF25
  h ^^^ (h >>> 28)

/-- Nine to sixteen octets. -/
def hashTo16 (bs : List UInt8) : UInt64 :=
  let n := bs.length
  let low := word bs 0 ^^^ (word secret 24 ^^^ word secret 32)
  let high := word bs (n - 8) ^^^ (word secret 40 ^^^ word secret 48)
  avalanche (UInt64.ofNat n + reversed low + high + foldProduct low high)

/-- Seventeen to 128 octets, taken from both ends. -/
def hashTo128 (bs : List UInt8) : UInt64 :=
  let n := bs.length
  let pairs := (List.range ((n - 1) / 32 + 1)).map fun j =>
    mix bs (16 * j) (32 * j) + mix bs (n - 16 * (j + 1)) (32 * j + 16)
  avalanche (UInt64.ofNat n * prime64a + sum pairs)

/-- 129 to 240 octets. -/
def hashTo240 (bs : List UInt8) : UInt64 :=
  let n := bs.length
  let front := (List.range 8).map fun i => mix bs (16 * i) (16 * i)
  let middle := (List.range (n / 16 - 8)).map fun i => mix bs (16 * (i + 8)) (16 * i + 3)
  avalanche (avalanche (UInt64.ofNat n * prime64a + sum front) + sum middle
    + mix bs (n - 16) 119)

/-! ## Long inputs -/

/-- What the eight lanes begin with. -/
def lanes : List UInt64 :=
  [prime32c, prime64a, prime64b, prime64c, prime64d, prime32b, prime64e, prime32a]

/-- The lane beside another in its pair. -/
def partner (i : Nat) : Nat := if i % 2 = 0 then i + 1 else i - 1

/-- A stripe of 64 octets: each lane takes the product of the halves of its
keyed word, and its partner's word as it is. -/
def accumulate (bs : List UInt8) (i k : Nat) (acc : List UInt64) : List UInt64 :=
  acc.mapIdx fun (l : Nat) (a : UInt64) =>
    let keyed := word bs (i + 8 * l) ^^^ word secret (k + 8 * l)
    a + word bs (i + 8 * partner l) + (keyed &&& (0xFFFFFFFF : UInt64)) * (keyed >>> 32)

/-- Stripes in a row, the secret moving on by eight octets each. -/
def stripes (bs : List UInt8) (i count : Nat) (acc : List UInt64) : List UInt64 :=
  (List.range count).foldl (fun acc s => accumulate bs (i + 64 * s) (8 * s) acc) acc

/-- The end of a block. -/
def scramble (acc : List UInt64) : List UInt64 :=
  acc.mapIdx fun (l : Nat) (a : UInt64) =>
    (a ^^^ (a >>> 47) ^^^ word secret (128 + 8 * l)) * prime32a

/-- Stripes in a whole block. -/
def blockStripes : Nat := 16

def blockLength : Nat := 64 * blockStripes

def blocks (bs : List UInt8) (count : Nat) (acc : List UInt64) : List UInt64 :=
  (List.range count).foldl
    (fun acc b => scramble (stripes bs (blockLength * b) blockStripes acc)) acc

/-- The lanes put together, two by two. -/
def merge (acc : List UInt64) (start : UInt64) : UInt64 :=
  let lane := fun i => acc.getD i 0
  avalanche (start + sum ((List.range 4).map fun i =>
    foldProduct (lane (2 * i) ^^^ word secret (11 + 16 * i))
      (lane (2 * i + 1) ^^^ word secret (19 + 16 * i))))

/-- More than 240 octets. -/
def hashLong (bs : List UInt8) : UInt64 :=
  let n := bs.length
  let whole := (n - 1) / blockLength
  let acc := blocks bs whole lanes
  let acc := stripes bs (blockLength * whole) ((n - 1 - blockLength * whole) / 64) acc
  let acc := accumulate bs (n - 64) 121 acc
  merge acc (UInt64.ofNat n * prime64a)

/-- The hash of any octets. -/
def hash (bs : List UInt8) : UInt64 :=
  let n := bs.length
  if n = 0 then shortAvalanche (word secret 56 ^^^ word secret 64)
  else if n ≤ 3 then hashTo3 bs
  else if n ≤ 8 then hashTo8 bs
  else if n ≤ 16 then hashTo16 bs
  else if n ≤ 128 then hashTo128 bs
  else if n ≤ 240 then hashTo240 bs
  else hashLong bs

end StructuredSql.Hash.Xxh3
