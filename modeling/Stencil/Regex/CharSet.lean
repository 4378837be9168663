import Stencil.Regex.Alphabet
/-!
# Sets of characters

A set is built from ranges and named classes by the operations on sets, as it is written.
Which characters it holds depends on the alphabet and on whether case counts. Without
regard to case, each range is widened to the characters that differ from its members
only in case. Digits, spaces and words hold either all or none of those.
-/
namespace Stencil.Regex

inductive CharSet where
  | empty
  | range (low high : Char)
  | digits
  | spaces
  | words
  | named (members : CharClass)
  | property (members : CharClass)
  | union (first second : CharSet)
  | inter (first second : CharSet)
  | diff (first second : CharSet)
  | symmDiff (first second : CharSet)
  | complement (set : CharSet)
deriving DecidableEq

namespace CharSet

def single (c : Char) : CharSet :=
  range c c

/-- The complement of a set, if it is asked for. -/
def complementIf (negated : Bool) (set : CharSet) : CharSet :=
  if negated then complement set else set

/-- Whether a set has a meaning in an alphabet. In ASCII it may name no other characters,
neither directly nor by a property of characters nor by what it leaves out. -/
def fits : Alphabet → CharSet → Bool
  | .unicode, _ => true
  | .ascii, set =>
    match set with
    | empty | digits | spaces | words | named _ => true
    | range _ high => high.toNat < 128
    | property _ | complement _ => false
    | union first second | inter first second | diff first second | symmDiff first second =>
      first.fits .ascii && second.fits .ascii

/-- The class of the characters in a set. A complement leaves out what the widened set
holds. -/
def toClass (alphabet : Alphabet) (caseless : Bool) : CharSet → CharClass
  | empty => .empty
  | range low high => widen (.ofRange low.toNat high.toNat)
  | digits => alphabet.digits
  | spaces => alphabet.spaces
  | words => alphabet.words
  | named members | property members => widen members
  | union first second => (first.toClass alphabet caseless).union (second.toClass alphabet caseless)
  | inter first second => (first.toClass alphabet caseless).inter (second.toClass alphabet caseless)
  | diff first second => (first.toClass alphabet caseless).diff (second.toClass alphabet caseless)
  | symmDiff first second =>
    (first.toClass alphabet caseless).symmDiff (second.toClass alphabet caseless)
  | complement set => (set.toClass alphabet caseless).complement
where
  /-- The class, without regard to case if so asked. -/
  widen (members : CharClass) : CharClass :=
    if caseless then alphabet.withVariants members else members

end CharSet

end Stencil.Regex
