import Lookahead.Unicode.Letter

/-!
# Identifiers

The properties of characters that say where they can stand in an identifier: those of Unicode,
version 16.
-/

namespace Lookahead.Unicode

/-- The property Pattern_Syntax. -/
def patternSyntax : CharSet := .ofTable
  "21-2F 3A-40 5B-5E 60 7B-7E A1-A7 A9 AB-AC AE B0-B1 B6 BB BF D7 F7 2010-2027 2030-203E
    2041-2053 2055-205E 2190-245F 2500-2775 2794-2BFF 2E00-2E7F 3001-3003 3008-3020 3030
    FD3E-FD3F FE45-FE46"

/-- The property Pattern_White_Space. -/
def patternWhiteSpace : CharSet := .ofTable "9-D 20 85 200E-200F 2028-2029"

/-- The property Other_ID_Start. -/
def otherIdStart : CharSet := .ofTable "1885-1886 2118 212E 309B-309C"

/-- The property ID_Start. -/
def idStart : CharSet :=
  (CharSet.unions [letter, letterNumber, otherIdStart]).minus
    (patternSyntax.union patternWhiteSpace)

/-- The property Other_ID_Continue. -/
def otherIdContinue : CharSet := .ofTable "B7 387 1369-1371 19DA 200C-200D 30FB FF65"

/-- The property ID_Continue. -/
def idContinue : CharSet :=
  .unions [idStart, nonspacingMark, spacingMark, decimalNumber, connectorPunctuation,
    otherIdContinue]

/-- The property XID_Start: the characters that stay at the start of an identifier in all normal
forms. -/
def xidStart : CharSet :=
  idStart.minus <| .ofTable
    "37A E33 EB3 309B-309C FC5E-FC63 FDFA-FDFB FE70/FE7E FF9E-FF9F"

/-- The property XID_Continue: the characters that stay in an identifier in all normal forms. -/
def xidContinue : CharSet :=
  idContinue.minus <| .ofTable
    "37A 309B-309C FC5E-FC63 FDFA-FDFB FE70/FE7E"

end Lookahead.Unicode
