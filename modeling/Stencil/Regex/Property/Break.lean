import Stencil.Regex.Property.Binary
import Stencil.Regex.Property.Script
/-!
# Breaks

Texts break between the characters that a reader sees, between words and between
sentences. Where they do depends on a value that each character has for each of the
three. The values are given by their names, in small letters without blanks; characters
that matter to no break have none.
-/
namespace Stencil.Regex.Property

inductive Break where
  | grapheme
  | word
  | sentence
deriving DecidableEq

namespace Break

def carriageReturn : CharClass := .ofRange 0xD 0xD

def lineFeed : CharClass := .ofRange 0xA 0xA

def joiner : CharClass := .ofRange 0x200D 0x200D

/-- The characters that never begin what they stand in. -/
def extenders : Break → CharClass
  | grapheme => Binary.graphemeExtend.members.union Listed.emojiModifier.members
  | word =>
    (CharClass.unionAll
      [Binary.graphemeExtend.members, Category.spacingMark.members,
       Listed.emojiModifier.members]).diff joiner
  | sentence =>
    CharClass.unionAll
      [Binary.graphemeExtend.members, Category.spacingMark.members, joiner]

/-- Characters that stand before those that they belong to. -/
def prepended : CharClass :=
  Listed.prependedConcatenationMark.members.union
    (.ofTable "D4E 111C2-111C3 113D1 1193F 11941 11A3A 11A84-11A89 11D46 11F02")

/-- The Korean syllables, with and without a final consonant. Every 28th has none. -/
def syllables (isClosed : Bool) : CharClass :=
  let isOpen := CharClass.ofCodes (List.range' 0xAC00 399 28)
  if isClosed then (CharClass.ofRange 0xAC00 0xD7A3).diff isOpen else isOpen

/-- The class of a value for the characters that a reader sees. -/
def graphemeClass? : String → Option CharClass
  | "cr" => some carriageReturn
  | "lf" => some lineFeed
  | "zwj" => some joiner
  | "cn" | "control" =>
    some ((CharClass.unionAll
      [Category.union [.lineSeparator, .paragraphSeparator, .control, .format],
       (Category.unassigned Category.all).inter Binary.defaultIgnorableCodePoint.members]).diff
      (CharClass.unionAll
        [carriageReturn, lineFeed, joiner, prepended, grapheme.extenders]))
  | "ex" | "extend" => some grapheme.extenders
  | "pp" | "prepend" => some prepended
  | "ri" | "regionalindicator" => some Listed.regionalIndicator.members
  | "sm" | "spacingmark" =>
    some ((Category.spacingMark.members.union (.ofTable "E33 EB3")).diff
      (grapheme.extenders.union (.ofTable
        "102B-102C 1038 1062-1064 1067-106D 1083 1087-108C 108F 109A-109C 1A61 1A63-1A64 AA7B
         AA7D 11720-11721")))
  | "l" => some (.ofTable "1100-115F A960-A97C")
  | "v" => some (.ofTable "1160-11A7 16D63 16D67-16D6A D7B0-D7C6")
  | "t" => some (.ofTable "11A8-11FF D7CB-D7FB")
  | "lv" => some (syllables false)
  | "lvt" => some (syllables true)
  | _ => none

/-- The characters of some scripts. -/
def scriptsNamed (names : List String) : CharClass :=
  CharClass.unionAll (names.map fun name => (Script.named? name).elim .empty Script.members)

/-- Marks that Japanese writing uses with its letters. -/
def kanaMarks : String := "3031-3035 309B-309C 30A0 30FC FF70"

/-- The class of a value for words. -/
def wordClass? : String → Option CharClass
  | "cr" => some carriageReturn
  | "lf" => some lineFeed
  | "nl" | "newline" => some (.ofTable "B-C 85 2028-2029")
  | "zwj" => some joiner
  | "dq" | "doublequote" => some (.ofRange 0x22 0x22)
  | "sq" | "singlequote" => some (.ofRange 0x27 0x27)
  | "extend" => some word.extenders
  | "fo" | "format" =>
    some ((Category.format.members.diff word.extenders).diff (.ofTable "200B 200D"))
  | "hl" | "hebrewletter" =>
    some ((scriptsNamed ["hebrew"]).inter Category.otherLetter.members)
  | "ka" | "katakana" => some ((scriptsNamed ["katakana"]).union (.ofTable kanaMarks))
  | "le" | "aletter" =>
    some (((Binary.alphabetic.members.union (.ofTable
      "2C2-2C5 2D2-2D7 2DE-2DF 2E5-2EB 2ED 2EF-2FF 55A-55C 55E 58A A708-A716 A720-A721
       A789-A78A AB5B")).diff
      (CharClass.unionAll
        [Listed.ideographic.members, .ofTable kanaMarks, word.extenders,
         scriptsNamed
          ["hebrew", "katakana", "hiragana", "thai", "lao", "myanmar", "khmer", "taile",
           "newtailue", "taitham", "taiviet", "ahom"]])).union
      (.ofRange 0x5F3 0x5F3))
  | "mb" | "midnumlet" => some (.ofTable "2E 2018-2019 2024 FE52 FF07 FF0E")
  | "ml" | "midletter" => some (.ofTable "3A B7 387 55F 5F4 2027 FE13 FE55 FF1A")
  | "mn" | "midnum" =>
    some (.ofTable "2C 3B 37E 589 60C-60D 66C 7F8 2044 FE10 FE14 FE50 FE54 FF0C FF1B")
  | "nu" | "numeric" => some (Category.decimalNumber.members.union (.ofRange 0x66B 0x66B))
  | "ex" | "extendnumlet" => some (.ofTable "5F 202F 203F-2040 2054 FE33-FE34 FE4D-FE4F FF3F")
  | "ri" | "regionalindicator" => some Listed.regionalIndicator.members
  | "wsegspace" => some (.ofTable "20 1680 2000-2006 2008-200A 205F 3000")
  | _ => none

/-- The letters that may begin a sentence, and those that may not. -/
def casedLetters (isCapital : Bool) : CharClass :=
  if isCapital then
    Category.titlecaseLetter.members.union
      (Binary.uppercase.members.diff (.ofTable "1C90-1CBA 1CBD-1CBF"))
  else
    Binary.lowercase.members.diff
      (Binary.graphemeExtend.members.union (.ofTable "10D0-10FA 10FD-10FF"))

/-- Full stops that may also stand in numbers. -/
def ambiguousStops : String := "2E 2024 FE52 FF0E"

/-- The class of a value for sentences. -/
def sentenceClass? : String → Option CharClass
  | "cr" => some carriageReturn
  | "lf" => some lineFeed
  | "ex" | "extend" => some sentence.extenders
  | "se" | "sep" => some (.ofTable "85 2028-2029")
  | "fo" | "format" => some (Category.format.members.diff sentence.extenders)
  | "sp" => some (Listed.whiteSpace.members.diff (.ofTable "A D 85 2028-2029"))
  | "lo" | "lower" => some (casedLetters false)
  | "up" | "upper" => some (casedLetters true)
  | "le" | "oletter" =>
    some ((Binary.alphabetic.members.union (.ofRange 0x5F3 0x5F3)).diff
      (CharClass.unionAll [casedLetters false, casedLetters true, sentence.extenders]))
  | "nu" | "numeric" => some (Category.decimalNumber.members.union (.ofRange 0x66B 0x66C))
  | "at" | "aterm" => some (.ofTable ambiguousStops)
  | "st" | "sterm" => some (Listed.sentenceTerminal.members.diff (.ofTable ambiguousStops))
  | "cl" | "close" =>
    some ((Category.union
      [.openPunctuation, .closePunctuation, .initialPunctuation, .finalPunctuation]).union
      (.ofTable "22 27 275B-2760 2E00-2E01 2E06-2E08 2E0B 1F676-1F678"))
  | "sc" | "scontinue" =>
    some (.ofTable
      "2C-2D 3A 55D 60C-60D 7F8 1802 1808 2013-2014 3001 FE10-FE11 FE13 FE31-FE32 FE50-FE51 FE55
       FE58 FE63 FF0C-FF0D FF1A FF64")
  | _ => none

/-- The class of a value by its name. -/
def class? : Break → String → Option CharClass
  | grapheme => graphemeClass?
  | word => wordClass?
  | sentence => sentenceClass?

end Break

end Stencil.Regex.Property
