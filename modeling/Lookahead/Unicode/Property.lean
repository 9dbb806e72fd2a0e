import Lookahead.Unicode.Age
import Lookahead.Unicode.Break
import Lookahead.Unicode.Identifier
import Lookahead.Unicode.Script

/-!
# Sets of characters by properties

A set of characters can be named by a property that they have, by their category or by their
script, or by a property and the value that they have of it. Names are compared loosely: case,
blanks, hyphens and low lines do not matter, and neither does `is` in front.
-/

namespace Lookahead.Unicode

/-- Sets of characters with the names that each of them has. -/
abbrev NamedSets := List (List String × CharSet)

/-- The properties that a character has or has not, by their names. -/
def properties : NamedSets := [
  (["AHex", "ASCII_Hex_Digit"], asciiHexDigit), (["Alpha", "Alphabetic"], alphabetic),
  (["Bidi_C", "Bidi_Control"], bidiControl), (["Bidi_M", "Bidi_Mirrored"], bidiMirrored),
  (["CI", "Case_Ignorable"], caseIgnorable), (["Cased"], cased),
  (["CWCF", "Changes_When_Casefolded"], changesWhenCasefolded),
  (["CWCM", "Changes_When_Casemapped"], changesWhenCasemapped),
  (["CWKCF", "Changes_When_NFKC_Casefolded"], changesWhenNfkcCasefolded),
  (["CWL", "Changes_When_Lowercased"], changesWhenLowercased),
  (["CWT", "Changes_When_Titlecased"], changesWhenTitlecased),
  (["CWU", "Changes_When_Uppercased"], changesWhenUppercased), (["Dash"], dash),
  (["DI", "Default_Ignorable_Code_Point"], defaultIgnorableCodePoint),
  (["Dep", "Deprecated"], deprecated), (["Dia", "Diacritic"], diacritic),
  (["EBase", "Emoji_Modifier_Base"], emojiModifierBase),
  (["EComp", "Emoji_Component"], emojiComponent), (["EMod", "Emoji_Modifier"], emojiModifier),
  (["Emoji"], emoji), (["EPres", "Emoji_Presentation"], emojiPresentation),
  (["ExtPict", "Extended_Pictographic"], extendedPictographic), (["Ext", "Extender"], extender),
  (["Gr_Base", "Grapheme_Base"], graphemeBase), (["Gr_Ext", "Grapheme_Extend"], graphemeExtend),
  (["Gr_Link", "Grapheme_Link"], graphemeLink), (["Hex", "Hex_Digit"], hexDigit),
  (["Hyphen"], hyphen), (["IDC", "ID_Continue"], idContinue),
  (["ID_Compat_Math_Continue"], idCompatMathContinue),
  (["ID_Compat_Math_Start"], idCompatMathStart), (["IDS", "ID_Start"], idStart),
  (["IDSB", "IDS_Binary_Operator"], idsBinaryOperator),
  (["IDST", "IDS_Trinary_Operator"], idsTrinaryOperator),
  (["IDSU", "IDS_Unary_Operator"], idsUnaryOperator), (["Ideo", "Ideographic"], ideographic),
  (["Join_C", "Join_Control"], joinControl),
  (["LOE", "Logical_Order_Exception"], logicalOrderException),
  (["Lower", "Lowercase"], lowercase), (["Math"], math),
  (["MCM", "Modifier_Combining_Mark"], modifierCombiningMark),
  (["NChar", "Noncharacter_Code_Point"], noncharacterCodePoint),
  (["OAlpha", "Other_Alphabetic"], otherAlphabetic),
  (["ODI", "Other_Default_Ignorable_Code_Point"], otherDefaultIgnorableCodePoint),
  (["OGr_Ext", "Other_Grapheme_Extend"], otherGraphemeExtend),
  (["OIDC", "Other_ID_Continue"], otherIdContinue), (["OIDS", "Other_ID_Start"], otherIdStart),
  (["OLower", "Other_Lowercase"], otherLowercase), (["OMath", "Other_Math"], otherMath),
  (["OUpper", "Other_Uppercase"], otherUppercase), (["Pat_Syn", "Pattern_Syntax"], patternSyntax),
  (["Pat_WS", "Pattern_White_Space"], patternWhiteSpace),
  (["PCM", "Prepended_Concatenation_Mark"], prependedConcatenationMark),
  (["QMark", "Quotation_Mark"], quotationMark), (["Radical"], radical),
  (["RI", "Regional_Indicator"], regionalIndicator), (["SD", "Soft_Dotted"], softDotted),
  (["STerm", "Sentence_Terminal"], sentenceTerminal),
  (["Term", "Terminal_Punctuation"], terminalPunctuation),
  (["UIdeo", "Unified_Ideograph"], unifiedIdeograph), (["Upper", "Uppercase"], uppercase),
  (["VS", "Variation_Selector"], variationSelector),
  (["WSpace", "White_Space", "space"], Text.whiteSpace), (["XIDC", "XID_Continue"], xidContinue),
  (["XIDS", "XID_Start"], xidStart)]

/-- The properties with values, by their names: the values with the characters that have them. -/
def valuedProperties : List (List String × NamedSets) := [
  (["gc", "General_Category"], categories), (["sc", "Script"], scripts),
  (["scx", "Script_Extensions"], scriptExtensions), (["age", "Age"], ages),
  (["GCB", "Grapheme_Cluster_Break"], graphemeBreaks), (["WB", "Word_Break"], wordBreaks),
  (["SB", "Sentence_Break"], sentenceBreaks)]

/-! ### Names -/

/-- Whether `is` is in front of the name, and the name without it. -/
def splitIs (name : List Char) : Bool × List Char :=
  match name with
  | first :: second :: rest =>
    if first.toLower = 'i' && second.toLower = 's' then (true, rest) else (false, name)
  | _ => (false, name)

/-- The name in the form in which names are compared. What is not of ASCII has no part in it. The
name `isc` is a name of its own, and not one of the category `C`. -/
def looseName (name : List Char) : List Char :=
  let (hasIs, rest) := splitIs name
  let letters := rest.filter fun c => c.toNat < 128 && c != ' ' && c != '_' && c != '-'
  let loose := letters.map Char.toLower
  if hasIs && loose == ['c'] then ['i', 's', 'c'] else loose

/-- What has the name `name`, if anything has. -/
def find? {α : Type} (name : List Char) (entries : List (List String × α)) : Option α :=
  let loose := looseName name
  (entries.find? fun entry => entry.1.any (looseName ·.toList == loose)).map (·.2)

/-- The characters with the property, category or script of that name. -/
def ofName? (name : List Char) : Option CharSet :=
  find? name properties <|> find? name categories <|> find? name scripts

/-- The characters that have the value `value` of the property `property`. -/
def ofValue? (property value : List Char) : Option CharSet :=
  (find? property valuedProperties).bind (find? value)

/-! ### Words -/

/-- The characters that words are made of: letters, marks, decimal digits, connectors such as the
low line, and the two joiners. -/
def wordChars : CharSet :=
  .unions [alphabetic, mark, decimalNumber, connectorPunctuation, joinControl]

end Lookahead.Unicode
