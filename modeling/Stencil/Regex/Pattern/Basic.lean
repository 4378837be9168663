import Stencil.Regex.CharSet
/-!
# Patterns

A pattern is the tree of an expression, before flags are resolved and groups are
numbered. Sequences and choices lean to the left: their second part is one item, or
one branch.
-/
namespace Stencil.Regex

/-- The flags that change what an expression means: letters without regard to case,
`^` and `$` at every line, `.` for the line feed too, a carriage return as a line end
too, quantifiers that take little unless marked, the characters of all scripts, and blanks
between items. -/
structure Flags where
  caseless : Bool := false
  multiLine : Bool := false
  dotAll : Bool := false
  carriageReturn : Bool := false
  swapGreed : Bool := false
  unicode : Bool := true
  verbose : Bool := false
deriving DecidableEq

/-- The flags that are switched, each to on or off. -/
structure FlagChange where
  caseless : Option Bool := none
  multiLine : Option Bool := none
  dotAll : Option Bool := none
  carriageReturn : Option Bool := none
  swapGreed : Option Bool := none
  unicode : Option Bool := none
  verbose : Option Bool := none
deriving DecidableEq

namespace Flags

def apply (flags : Flags) (change : FlagChange) : Flags where
  caseless := change.caseless.getD flags.caseless
  multiLine := change.multiLine.getD flags.multiLine
  dotAll := change.dotAll.getD flags.dotAll
  carriageReturn := change.carriageReturn.getD flags.carriageReturn
  swapGreed := change.swapGreed.getD flags.swapGreed
  unicode := change.unicode.getD flags.unicode
  verbose := change.verbose.getD flags.verbose

def alphabet (flags : Flags) : Alphabet :=
  if flags.unicode then .unicode else .ascii

end Flags

/-- What holds of the characters on the two sides of a place: one of them belongs to a word
and the other does not, or both or neither do, and so on. -/
inductive WordEdge where
  | boundary
  | noBoundary
  | start
  | stop
  | startHalf
  | stopHalf
deriving DecidableEq

/-- What holds of a place between two characters. -/
inductive Assertion where
  | textStart
  | textEnd
  | lineStart (carriageReturn : Bool)
  | lineEnd (carriageReturn : Bool)
  | word (alphabet : Alphabet) (edge : WordEdge)
deriving DecidableEq

/-- The items that hold no other items. A byte is a character that is written by two
hexadecimal digits. A set written in brackets counts the levels of nesting that its
brackets make. -/
inductive Atom where
  | character (c : Char)
  | byte (c : Char)
  | set (set : CharSet) (levels : Nat)
  | anyCharacter
  | caret
  | dollar
  | textStart
  | textEnd
  | word (edge : WordEdge)
deriving DecidableEq

namespace Atom

def levels : Atom → Nat
  | set _ levels => levels
  | _ => 0

end Atom

/-- How often something repeats. -/
structure Bounds where
  least : Nat
  most : Option Nat
deriving DecidableEq

namespace Bounds

def any : Bounds := ⟨0, none⟩

def atLeastOne : Bounds := ⟨1, none⟩

def atMostOne : Bounds := ⟨0, some 1⟩

/-- The same bounds, but never more than one round. -/
def withinOne (bounds : Bounds) : Bounds :=
  ⟨min bounds.least 1, some (min (bounds.most.getD 1) 1)⟩

end Bounds

inductive Pattern where
  | empty
  | atom (atom : Atom)
  | flags (change : FlagChange)
  | sequence (first second : Pattern)
  | choice (first second : Pattern)
  | capture (inside : Pattern)
  | group (change : FlagChange) (inside : Pattern)
  | repetition (bounds : Bounds) (greedy : Bool) (inside : Pattern)
deriving DecidableEq

namespace Pattern

/-- One item after another, given the latest first. -/
def ofItems : List Pattern → Pattern
  | [] => empty
  | [item] => item
  | item :: earlier => sequence (ofItems earlier) item

/-- One branch or else the next, given the latest first. -/
def ofBranches : List Pattern → Pattern
  | [] => empty
  | [branch] => branch
  | branch :: earlier => choice (ofBranches earlier) branch

/-- The number of capture groups, each at its opening parenthesis. -/
def groupCount : Pattern → Nat
  | empty | atom _ | flags _ => 0
  | sequence first second | choice first second => first.groupCount + second.groupCount
  | capture inside => 1 + inside.groupCount
  | group _ inside | repetition _ _ inside => inside.groupCount

def isSequence : Pattern → Bool
  | sequence _ _ => true
  | _ => false

def isChoice : Pattern → Bool
  | choice _ _ => true
  | _ => false

/-- The levels of nesting. All items of a sequence are one level below it, and so are
all branches of a choice. -/
def depth : Pattern → Nat
  | empty | flags _ => 0
  | atom item => item.levels
  | sequence first second =>
    if first.isSequence then max first.depth (1 + second.depth)
    else 1 + max first.depth second.depth
  | choice first second =>
    if first.isChoice then max first.depth (1 + second.depth)
    else 1 + max first.depth second.depth
  | capture inside | group _ inside | repetition _ _ inside => 1 + inside.depth

end Pattern

end Stencil.Regex
