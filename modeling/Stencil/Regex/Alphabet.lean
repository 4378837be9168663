import Stencil.Regex.CaseFold
import Stencil.Regex.CharClass
import Stencil.Regex.Property.Basic
/-!
# Alphabets

Digits, white space, words and letter case are those of all scripts, or of ASCII alone.
-/
namespace Stencil.Regex

inductive Alphabet where
  | unicode
  | ascii
deriving DecidableEq

namespace Alphabet

def digits : Alphabet → CharClass
  | unicode => ⟨digitRanges⟩
  | ascii => ⟨[(0x30, 0x39)]⟩

def spaces : Alphabet → CharClass
  | unicode => ⟨spaceRanges⟩
  | ascii => ⟨[(0x9, 0xD), (0x20, 0x20)]⟩

def words : Alphabet → CharClass
  | unicode => ⟨wordRanges⟩
  | ascii => ⟨[(0x30, 0x39), (0x41, 0x5A), (0x5F, 0x5F), (0x61, 0x7A)]⟩

def isWord (alphabet : Alphabet) (c : Char) : Bool :=
  alphabet.words.contains c

/-- The codes that differ only in case from one that lies between `low` and `high`. -/
def caseVariants (alphabet : Alphabet) (low high : Nat) : List Nat :=
  match alphabet with
  | unicode => Regex.caseVariants low high
  | ascii => (Regex.caseVariants low high).filter (· < 128)

/-- A class with the characters that differ from its members only in case. -/
def withVariants (alphabet : Alphabet) (members : CharClass) : CharClass :=
  members.union
    (.ofCodes (members.ranges.flatMap fun (low, high) => alphabet.caseVariants low high))

end Alphabet

end Stencil.Regex
