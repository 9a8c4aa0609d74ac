import Converge.Text.Printable

/-!
# Quoted text

A text between double quotes, in which everything a reader could not see or would
mistake is escaped: quotes, backslashes, line ends and tabs by a letter, other
unprintable characters and grapheme extensions by their code point in braces.
-/

namespace Converge.Text

/-- Lower-case hexadecimal digits without leading zeros. -/
def hexDigits (n : Nat) : List Char := Nat.toDigits 16 n

/-- One character of a quoted text. -/
def quoteChar (c : Char) : List Char :=
  if c = '\x00' then ['\\', '0']
  else if c = '\t' then ['\\', 't']
  else if c = '\r' then ['\\', 'r']
  else if c = '\n' then ['\\', 'n']
  else if c = '"' then ['\\', '"']
  else if c = '\\' then ['\\', '\\']
  else if isPrintable c && !isGraphemeExtend c then [c]
  else '\\' :: 'u' :: '{' :: (hexDigits c.toNat ++ ['}'])

/-- The text between double quotes. -/
def quoted (s : String) : String :=
  String.ofList ('"' :: (s.toList.flatMap quoteChar ++ ['"']))

end Converge.Text
