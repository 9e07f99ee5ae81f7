-- A text as it is shown in descriptions of objects: between quotes, with what
-- cannot be seen written out.
import StructuredSql.Unicode.Class
import StructuredSql.Json.Printer

namespace StructuredSql.Text

/-- The digits of a code point, without leading zeros. -/
def codeDigits (n : Nat) : List Char := Nat.toDigits 16 n

def showChar (c : Char) : List Char :=
  if c = '\x00' then ['\\', '0']
  else if c = '\t' then ['\\', 't']
  else if c = '\n' then ['\\', 'n']
  else if c = '\r' then ['\\', 'r']
  else if c = '"' then ['\\', '"']
  else if c = '\\' then ['\\', '\\']
  else if Unicode.isHidden c then ['\\', 'u', '{'] ++ codeDigits c.toNat ++ ['}']
  else [c]

/-- The text between quotes. -/
def shown (s : String) : String :=
  String.ofList ('"' :: (s.toList.flatMap showChar ++ ['"']))

end StructuredSql.Text
