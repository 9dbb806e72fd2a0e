import Lookahead.Text.GraphemeExtend
import Lookahead.Text.Unprintable

/-!
# Characters and texts in quotes

The quoted form of a character or a text shows every character so that it can be told from all
others: those that have no shape of their own, and those that would merge with the character in
front of them, are written by their code point in hexadecimal digits.
-/

namespace Lookahead.Text

/-- The hexadecimal digits of `n`, in lower case and without leading zeros. -/
def hexDigits (n : Nat) : String := String.ofList (Nat.toDigits 16 n)

/-- One character inside quotes; `quote` is the quotation mark around it. -/
def escapeChar (quote c : Char) : String :=
  if c = '\x00' then "\\0"
  else if c = '\t' then "\\t"
  else if c = '\r' then "\\r"
  else if c = '\n' then "\\n"
  else if c = '\\' then "\\\\"
  else if c = quote then String.ofList ['\\', quote]
  else if extendsGrapheme c || !isPrintable c then "\\u\x7b" ++ hexDigits c.toNat ++ "\x7d"
  else String.singleton c

/-- A character in single quotes. -/
def quoteChar (c : Char) : String := "'" ++ escapeChar '\'' c ++ "'"

/-- A text in double quotes. -/
def quoteString (text : String) : String :=
  "\"" ++ String.join (text.toList.map (escapeChar '"')) ++ "\""

end Lookahead.Text
