import Lookahead.Text.CharSet

/-!
# Sets of ASCII characters

The sets of ASCII characters that patterns name by a letter behind a backslash or by a name between
colons.
-/

namespace Lookahead

namespace CharSet

/-- The characters of ASCII. -/
def ascii : CharSet := .range '\x00' '\x7f'

/-- The decimal digits of ASCII. -/
def asciiDigits : CharSet := .range '0' '9'

/-- The white space of ASCII. -/
def asciiWhiteSpace : CharSet := .ofTable "9-D 20"

/-- The word characters of ASCII. -/
def asciiWordChars : CharSet := .ofTable "30-39 41-5A 5F 61-7A"

/-- The set of ASCII that has that name between colons. -/
def ofAsciiName? (name : String) : Option CharSet :=
  match name with
  | "alnum" => some (.ofTable "30-39 41-5A 61-7A")
  | "alpha" => some (.ofTable "41-5A 61-7A")
  | "ascii" => some ascii
  | "blank" => some (.ofTable "9 20")
  | "cntrl" => some (.ofTable "0-1F 7F")
  | "digit" => some asciiDigits
  | "graph" => some (.range '!' '~')
  | "lower" => some (.range 'a' 'z')
  | "print" => some (.range ' ' '~')
  | "punct" => some (.ofTable "21-2F 3A-40 5B-60 7B-7E")
  | "space" => some asciiWhiteSpace
  | "upper" => some (.range 'A' 'Z')
  | "word" => some asciiWordChars
  | "xdigit" => some (.ofTable "30-39 41-46 61-66")
  | _ => none

/-- Whether all characters of the set are of ASCII. -/
def isAscii (set : CharSet) : Bool := set.ranges.all (·.2 < 128)

end CharSet

end Lookahead
