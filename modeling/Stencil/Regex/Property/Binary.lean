import Stencil.Regex.Property.CaseMapping
import Stencil.Regex.Property.Category
import Stencil.Regex.Property.Listed
/-!
# Properties of characters

Properties that a character has or has not: those that are listed, and those that follow
from categories and lists.
-/
namespace Stencil.Regex.Property

inductive Binary where
  | listed (property : Listed)
  | alphabetic
  | caseIgnorable
  | cased
  | changesWhenCasefolded
  | changesWhenCasemapped
  | changesWhenLowercased
  | changesWhenTitlecased
  | changesWhenUppercased
  | defaultIgnorableCodePoint
  | graphemeBase
  | graphemeExtend
  | idContinue
  | idStart
  | lowercase
  | math
  | uppercase
  | xidContinue
  | xidStart
deriving DecidableEq

namespace Binary

/-- The characters of an identifier: letters, letters that are numbers, and what may follow
them if asked for. -/
def identifiers (isContinued : Bool) : CharClass :=
  let starts :=
    (Category.union (.letterNumber :: Category.letters)).union Listed.otherIdStart.members
  let continuations :=
    (Category.union
      [.nonspacingMark, .spacingMark, .decimalNumber, .connectorPunctuation]).union
      Listed.otherIdContinue.members
  (if isContinued then starts.union continuations else starts).diff
    (Listed.patternSyntax.members.union Listed.patternWhiteSpace.members)

/-- Characters whose compatible forms keep no identifier whole. -/
def unstable : String :=
  "37A 309B-309C FC5E-FC63 FDFA-FDFB FE70 FE72 FE74 FE76 FE78 FE7A FE7C FE7E"

def members : Binary → CharClass
  | listed property => property.members
  | alphabetic =>
    CharClass.unionAll
      [Category.union (.letterNumber :: Category.letters), Listed.otherLowercase.members,
       Listed.otherUppercase.members, Listed.otherAlphabetic.members]
  | caseIgnorable =>
    (Category.union
      [.nonspacingMark, .enclosingMark, .format, .modifierLetter, .modifierSymbol]).union
      (.ofTable
        "27 2E 3A B7 387 55F 5F4 2018-2019 2024 2027 FE13 FE52 FE55 FF07 FF0E FF1A")
  | cased =>
    CharClass.unionAll
      [Category.union [.uppercaseLetter, .lowercaseLetter, .titlecaseLetter],
       Listed.otherLowercase.members, Listed.otherUppercase.members]
  | changesWhenCasefolded => CaseMapping.fold.changed
  | changesWhenCasemapped =>
    CharClass.unionAll
      [CaseMapping.lowercase.changed, CaseMapping.titlecase.changed, CaseMapping.uppercase.changed]
  | changesWhenLowercased => CaseMapping.lowercase.changed
  | changesWhenTitlecased => CaseMapping.titlecase.changed
  | changesWhenUppercased => CaseMapping.uppercase.changed
  | defaultIgnorableCodePoint =>
    (CharClass.unionAll
      [Listed.otherDefaultIgnorableCodePoint.members, Category.format.members,
       Listed.variationSelector.members]).diff
      (CharClass.unionAll
        [Listed.whiteSpace.members, Listed.prependedConcatenationMark.members,
         .ofTable "FFF9-FFFB 13430-13440"])
  | graphemeBase =>
    (Category.union
      (.spaceSeparator :: .spacingMark ::
        Category.letters ++ Category.numbers ++ Category.punctuation ++ Category.symbols)).diff
      Listed.otherGraphemeExtend.members
  | graphemeExtend =>
    (Category.union [.enclosingMark, .nonspacingMark]).union Listed.otherGraphemeExtend.members
  | idContinue => identifiers true
  | idStart => identifiers false
  | lowercase => Category.lowercaseLetter.members.union Listed.otherLowercase.members
  | math => Category.mathSymbol.members.union Listed.otherMath.members
  | uppercase => Category.uppercaseLetter.members.union Listed.otherUppercase.members
  | xidContinue => (identifiers true).diff (.ofTable unstable)
  | xidStart => (identifiers false).diff
    ((CharClass.ofTable unstable).union (.ofTable "E33 EB3 FF9E-FF9F"))

/-- The properties by their names, in small letters without blanks. -/
def named : List (List String × Binary) :=
  [(["asciihexdigit", "ahex"], .listed .asciiHexDigit),
   (["bidicontrol", "bidic"], .listed .bidiControl),
   (["bidimirrored", "bidim"], .listed .bidiMirrored), (["dash"], .listed .dash),
   (["deprecated", "dep"], .listed .deprecated), (["diacritic", "dia"], .listed .diacritic),
   (["emoji"], .listed .emoji), (["emojicomponent", "ecomp"], .listed .emojiComponent),
   (["emojimodifier", "emod"], .listed .emojiModifier),
   (["emojimodifierbase", "ebase"], .listed .emojiModifierBase),
   (["emojipresentation", "epres"], .listed .emojiPresentation),
   (["extendedpictographic", "extpict"], .listed .extendedPictographic),
   (["extender", "ext"], .listed .extender), (["graphemelink", "grlink"], .listed .graphemeLink),
   (["hexdigit", "hex"], .listed .hexDigit), (["hyphen"], .listed .hyphen),
   (["idcompatmathcontinue"], .listed .idCompatMathContinue),
   (["idcompatmathstart"], .listed .idCompatMathStart),
   (["ideographic", "ideo"], .listed .ideographic),
   (["idsbinaryoperator", "idsb"], .listed .idsBinaryOperator),
   (["idstrinaryoperator", "idst"], .listed .idsTrinaryOperator),
   (["idsunaryoperator", "idsu"], .listed .idsUnaryOperator),
   (["joincontrol", "joinc"], .listed .joinControl),
   (["logicalorderexception", "loe"], .listed .logicalOrderException),
   (["modifiercombiningmark", "mcm"], .listed .modifierCombiningMark),
   (["noncharactercodepoint", "nchar"], .listed .noncharacterCodePoint),
   (["otheralphabetic", "oalpha"], .listed .otherAlphabetic),
   (["otherdefaultignorablecodepoint", "odi"], .listed .otherDefaultIgnorableCodePoint),
   (["othergraphemeextend", "ogrext"], .listed .otherGraphemeExtend),
   (["otheridcontinue", "oidc"], .listed .otherIdContinue),
   (["otheridstart", "oids"], .listed .otherIdStart),
   (["otherlowercase", "olower"], .listed .otherLowercase),
   (["othermath", "omath"], .listed .otherMath),
   (["otheruppercase", "oupper"], .listed .otherUppercase),
   (["patternsyntax", "patsyn"], .listed .patternSyntax),
   (["patternwhitespace", "patws"], .listed .patternWhiteSpace),
   (["prependedconcatenationmark", "pcm"], .listed .prependedConcatenationMark),
   (["quotationmark", "qmark"], .listed .quotationMark), (["radical"], .listed .radical),
   (["regionalindicator", "ri"], .listed .regionalIndicator),
   (["sentenceterminal", "sterm"], .listed .sentenceTerminal),
   (["softdotted", "sd"], .listed .softDotted),
   (["terminalpunctuation", "term"], .listed .terminalPunctuation),
   (["unifiedideograph", "uideo"], .listed .unifiedIdeograph),
   (["variationselector", "vs"], .listed .variationSelector),
   (["whitespace", "wspace", "space"], .listed .whiteSpace),
   (["alphabetic", "alpha"], .alphabetic), (["caseignorable", "ci"], .caseIgnorable),
   (["cased"], .cased), (["changeswhencasefolded", "cwcf"], .changesWhenCasefolded),
   (["changeswhencasemapped", "cwcm"], .changesWhenCasemapped),
   (["changeswhenlowercased", "cwl"], .changesWhenLowercased),
   (["changeswhentitlecased", "cwt"], .changesWhenTitlecased),
   (["changeswhenuppercased", "cwu"], .changesWhenUppercased),
   (["defaultignorablecodepoint", "di"], .defaultIgnorableCodePoint),
   (["graphemebase", "grbase"], .graphemeBase), (["graphemeextend", "grext"], .graphemeExtend),
   (["idcontinue", "idc"], .idContinue), (["idstart", "ids"], .idStart),
   (["lowercase", "lower"], .lowercase), (["math"], .math), (["uppercase", "upper"], .uppercase),
   (["xidcontinue", "xidc"], .xidContinue), (["xidstart", "xids"], .xidStart)]

def named? (name : String) : Option Binary :=
  (named.find? (·.1.contains name)).map (·.2)

end Binary

end Stencil.Regex.Property
