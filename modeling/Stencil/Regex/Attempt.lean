import Stencil.Regex.Pattern.Basic
/-!
# Attempts

An attempt to match moves from place to place in a text. It keeps the groups that it
has opened and those that it has closed.
-/
namespace Stencil.Regex

/-- A place between two characters: how many are before it, the last of those, and the
text after it. -/
structure Place where
  position : Nat
  previous : Option Char
  rest : List Char
deriving DecidableEq

namespace Place

/-- The place before a text. -/
def start (text : List Char) : Place :=
  ⟨0, none, text⟩

def wordBefore (place : Place) (alphabet : Alphabet) : Bool :=
  place.previous.any alphabet.isWord

def wordAfter (place : Place) (alphabet : Alphabet) : Bool :=
  place.rest.head?.any alphabet.isWord

end Place

namespace WordEdge

def holdsAt (place : Place) (alphabet : Alphabet) : WordEdge → Bool
  | boundary => place.wordBefore alphabet != place.wordAfter alphabet
  | noBoundary => place.wordBefore alphabet == place.wordAfter alphabet
  | start => !place.wordBefore alphabet && place.wordAfter alphabet
  | stop => place.wordBefore alphabet && !place.wordAfter alphabet
  | startHalf => !place.wordBefore alphabet
  | stopHalf => !place.wordAfter alphabet

end WordEdge

namespace Assertion

/-- Whether an assertion holds at a place. A line feed ends a line. So does a carriage
return, if it counts, but the two in a row are one line end. -/
def holdsAt (place : Place) : Assertion → Bool
  | textStart => place.previous.isNone
  | textEnd => place.rest.isEmpty
  | lineStart false => place.previous.all (· == '\n')
  | lineEnd false => place.rest.head?.all (· == '\n')
  | lineStart true =>
    place.previous.all fun c => c == '\n' || (c == '\r' && place.rest.head? != some '\n')
  | lineEnd true =>
    place.rest.head?.all fun c => c == '\r' || (c == '\n' && place.previous != some '\r')
  | word alphabet edge => edge.holdsAt place alphabet

end Assertion

/-- A group that was closed: its index, where it was opened, and the position where it
was closed. -/
structure GroupSpan where
  index : Nat
  opened : Place
  closed : Nat
deriving DecidableEq

namespace GroupSpan

def text (span : GroupSpan) : List Char :=
  span.opened.rest.take (span.closed - span.opened.position)

end GroupSpan

/-- A match on its way: where it is, where the groups around that place were opened,
and the groups that it has closed, the latest first in both. -/
structure Attempt where
  place : Place
  opened : List Place := []
  closed : List GroupSpan := []
deriving DecidableEq

namespace Attempt

/-- Moves over the next character if the class holds it. -/
def move? (members : CharClass) (attempt : Attempt) : Option Attempt :=
  match attempt.place.rest with
  | [] => none
  | c :: rest =>
    if members.contains c then
      some { attempt with place := ⟨attempt.place.position + 1, some c, rest⟩ }
    else none

def openGroup (attempt : Attempt) : Attempt :=
  { attempt with opened := attempt.place :: attempt.opened }

/-- Closes the group that was opened last. -/
def closeGroup (index : Nat) (attempt : Attempt) : Attempt :=
  match attempt.opened with
  | [] => attempt
  | opened :: outer =>
    { attempt with
      opened := outer
      closed := ⟨index, opened, attempt.place.position⟩ :: attempt.closed }

/-- The text of a group: of several closings the latest counts. -/
def group? (attempt : Attempt) (index : Nat) : Option (List Char) :=
  (attempt.closed.find? fun span => span.index == index).map GroupSpan.text

end Attempt

end Stencil.Regex
