import Lookahead.Text.WhiteSpace
import Lookahead.Unicode.Sign

/-!
# Breaks in a text

The properties of characters that say where a text can be cut into graphemes, words and sentences:
those of Unicode, version 16. They follow from the other properties and lists of exceptions.
-/

namespace Lookahead.Unicode

/-! ### Graphemes -/

/-- The characters that a grapheme goes on with. -/
def graphemeExtender : CharSet := graphemeExtend.union emojiModifier

/-- The characters that a grapheme goes on behind. -/
def graphemePrepend : CharSet := .ofTable
  "600-605 6DD 70F 890-891 8E2 D4E 110BD 110CD 111C2-111C3 113D1 1193F 11941 11A3A 11A84-11A89
    11D46 11F02"

/-- The characters that stand alone as graphemes, line ends apart. -/
def graphemeControl : CharSet :=
  (CharSet.unions [lineSeparator, paragraphSeparator, control, format,
      unassigned.inter defaultIgnorableCodePoint]).minus
    (.unions [.ofTable "A D 200D", prependedConcatenationMark, graphemeExtender])

/-- The marks with a width of their own that a grapheme goes on with. -/
def graphemeSpacingMark : CharSet :=
  ((spacingMark.minus graphemeExtend).union (.ofTable "E33 EB3")).minus <| .ofTable
    "102B-102C 1038 1062-1064 1067-106D 1083 1087-108C 108F 109A-109C 1A61 1A63-1A64 AA7B AA7D
      11720-11721"

/-- The syllables of Hangul without a final consonant. Each of them is followed by the 27 syllables
that add a final consonant to it. -/
def hangulSyllables : List CharRange :=
  (List.range 399).map fun i => (0xac00 + 28 * i, 0xac00 + 28 * i)

/-- The values of Grapheme_Cluster_Break by their names, with the characters that have them. -/
def graphemeBreaks : List (List String × CharSet) := [
  (["CN", "Control"], graphemeControl), (["CR"], .ofTable "D"),
  (["EX", "Extend"], graphemeExtender),
  (["L"], .ofTable "1100-115F A960-A97C"), (["LF"], .ofTable "A"), (["LV"], ⟨hangulSyllables⟩),
  (["LVT"], (CharSet.ofTable "AC00-D7A3").minus ⟨hangulSyllables⟩),
  (["PP", "Prepend"], graphemePrepend), (["RI", "Regional_Indicator"], regionalIndicator),
  (["SM", "SpacingMark"], graphemeSpacingMark), (["T"], .ofTable "11A8-11FF D7CB-D7FB"),
  (["V"], .ofTable "1160-11A7 D7B0-D7C6 16D63 16D67-16D6A"), (["ZWJ"], .ofTable "200D")]

/-! ### Words -/

/-- The characters that a word or a sentence goes on with. -/
def markExtender : CharSet := graphemeExtend.union spacingMark

/-- The letters of Hebrew. -/
def hebrewLetter : CharSet := .ofTable
  "5D0-5EA 5EF-5F2 FB1D FB1F-FB28 FB2A-FB36 FB38-FB3C FB3E FB40-FB41 FB43-FB44 FB46-FB4F"

/-- The letters and signs of Katakana. -/
def katakana : CharSet := .ofTable
  "3031-3035 309B-309C 30A0-30FA 30FC-30FF 31F0-31FF 32D0-32FE 3300-3357 FF66-FF9D 1AFF0-1AFF3
    1AFF5-1AFFB 1AFFD-1AFFE 1B000 1B120-1B122 1B155 1B164-1B167"

/-- The letters of words that are separated by blanks. -/
def alphabeticLetter : CharSet :=
  (alphabetic.union <| .ofTable
      "2C2-2C5 2D2-2D7 2DE-2DF 2E5-2EB 2ED 2EF-2FF 55A-55C 55E 58A 5F3 A708-A716 A720-A721
        A789-A78A AB5B").minus <|
  .unions [markExtender, ideographic, hebrewLetter, katakana, .ofTable
      "E01-E30 E32-E33 E40-E46 E81-E82 E84 E86-E8A E8C-EA3 EA5 EA7-EB0 EB2-EB3 EBD EC0-EC4 EC6
        EDC-EDF 1000-102A 103F 1050-1055 105A-105D 1061 1065-1066 106E-1070 1075-1081 108E
        1780-17B3 17D7 17DC 1950-196D 1970-1974 1980-19AB 19B0-19C9 1A20-1A54 1AA7 3041-3096
        309D-309F A9E0-A9E4 A9E6-A9EF A9FA-A9FE AA60-AA76 AA7A AA7E-AAAF AAB1 AAB5-AAB6
        AAB9-AABD AAC0 AAC2 AADB-AADD 11700-1171A 11740-11746 1B001-1B11F 1B132 1B150-1B152"]

/-- The format characters that say how a number goes on. -/
def numberFormat : CharSet := .ofTable "600-605 6DD 890-891 8E2"

/-- The values of Word_Break by their names, with the characters that have them. -/
def wordBreaks : List (List String × CharSet) := [
  (["LE", "ALetter"], alphabeticLetter), (["CR"], .ofTable "D"),
  (["DQ", "Double_Quote"], .ofTable "22"),
  (["Extend"], (markExtender.union emojiModifier).minus (.ofTable "200D")),
  (["EX", "ExtendNumLet"], connectorPunctuation.union (.ofTable "202F")),
  (["FO", "Format"],
    format.minus (.unions [.ofTable "200B-200D", graphemeExtend, numberFormat])),
  (["HL", "Hebrew_Letter"], hebrewLetter), (["KA", "Katakana"], katakana), (["LF"], .ofTable "A"),
  (["ML", "MidLetter"], .ofTable "3A B7 387 55F 5F4 2027 FE13 FE55 FF1A"),
  (["MN", "MidNum"], .ofTable "2C 3B 37E 589 60C-60D 66C 7F8 2044 FE10 FE14 FE50 FE54 FF0C FF1B"),
  (["MB", "MidNumLet"], .ofTable "2E 2018-2019 2024 FE52 FF07 FF0E"),
  (["NL", "Newline"], .ofTable "B-C 85 2028-2029"),
  (["NU", "Numeric"], .unions [decimalNumber, numberFormat, .ofTable "66B"]),
  (["RI", "Regional_Indicator"], regionalIndicator), (["SQ", "Single_Quote"], .ofTable "27"),
  (["WSegSpace"], .ofTable "20 1680 2000-2006 2008-200A 205F 3000"), (["ZWJ"], .ofTable "200D")]

/-! ### Sentences -/

/-- The lower case, as far as sentences do not start with it. -/
def sentenceLower : CharSet :=
  lowercase.minus (graphemeExtend.union (.ofTable "10D0-10FA 10FD-10FF"))

/-- The upper case, as far as sentences start with it. -/
def sentenceUpper : CharSet :=
  (uppercase.union titlecaseLetter).minus (.ofTable "1C90-1CBA 1CBD-1CBF")

/-- The characters that may end a sentence. -/
def ambiguousTerminal : CharSet := .ofTable "2E 2024 FE52 FF0E"

/-- The values of Sentence_Break by their names, with the characters that have them. -/
def sentenceBreaks : List (List String × CharSet) := [
  (["AT", "ATerm"], ambiguousTerminal),
  (["CL", "Close"],
    .unions [openPunctuation, closePunctuation, initialPunctuation, finalPunctuation,
      .ofTable "22 27 275B-2760 2E00-2E01 2E06-2E08 2E0B 1F676-1F678"]),
  (["CR"], .ofTable "D"), (["EX", "Extend"], markExtender.union (.ofTable "200D")),
  (["FO", "Format"], format.minus (graphemeExtend.union (.ofTable "200D"))),
  (["LF"], .ofTable "A"), (["LO", "Lower"], sentenceLower),
  (["NU", "Numeric"], decimalNumber.union (.ofTable "66B-66C")),
  (["LE", "OLetter"],
    (alphabetic.union (.ofTable "5F3")).minus
      (.unions [sentenceLower, sentenceUpper, markExtender])),
  (["SC", "SContinue"],
    .ofTable "2C-2D 3A-3B 37E 55D 60C-60D 7F8 1802 1808 2013-2014 3001 FE10-FE11 FE13-FE14
      FE31-FE32 FE50-FE51 FE54-FE55 FE58 FE63 FF0C-FF0D FF1A-FF1B FF64"),
  (["SE", "Sep"], .ofTable "85 2028-2029"),
  (["SP", "Sp"], Text.whiteSpace.minus (.ofTable "A D 85 2028-2029")),
  (["ST", "STerm"], sentenceTerminal.minus ambiguousTerminal), (["UP", "Upper"], sentenceUpper)]

end Lookahead.Unicode
