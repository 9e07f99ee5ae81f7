-- Octets as pairs of hexadecimal digits.
import StructuredSql.Json.Printer
import StructuredSql.Json.Parser

namespace StructuredSql.Text.Hex

def digits (b : UInt8) : List Char := [Json.hexDigit (b.toNat / 16), Json.hexDigit b.toNat]

def encode (bs : List UInt8) : String := String.ofList (bs.flatMap digits)

/-- The octets of a text of whole pairs. -/
def octets? : List Char → Option (List UInt8)
  | [] => some []
  | a :: b :: rest => do
    let high ← Json.hexValue? a
    let low ← Json.hexValue? b
    return UInt8.ofNat (16 * high + low) :: (← octets? rest)
  | [_] => none

def decode? (s : String) : Option (List UInt8) := octets? s.toList

end StructuredSql.Text.Hex
