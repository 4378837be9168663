import Std.Data.TreeSet
import Stencil.Regex.Automaton.Basic
/-!
# Search

A search takes the paths of an automaton in order of preference. What can be reached
from a fork does not depend on how the fork was reached, so no fork is taken twice at
the same position. The first path that ends the match gives the answer.
-/
namespace Stencil.Regex

namespace Step

def take : Step → Attempt → Option Attempt
  | move members, attempt => attempt.move? members
  | check assertion, attempt => if assertion.holdsAt attempt.place then some attempt else none
  | openGroup, attempt => some attempt.openGroup
  | closeGroup index, attempt => some (attempt.closeGroup index)

/-- Takes steps one after another, if each can be taken. -/
def takeAll : List Step → Attempt → Option Attempt
  | [], attempt => some attempt
  | step :: steps, attempt =>
    match step.take attempt with
    | some attempt => takeAll steps attempt
    | none => none

end Step

/-- A fork at a position in the text. -/
structure Crossing where
  position : Nat
  fork : Nat
deriving DecidableEq

namespace Crossing

/-- Crossings in the order of their positions. -/
def compare : Crossing → Crossing → Ordering :=
  compareLex (compareOn position) (compareOn fork)

instance : Std.TransCmp Crossing.compare :=
  inferInstanceAs (Std.TransCmp (compareLex (compareOn position) (compareOn fork)))

instance : Std.LawfulEqCmp Crossing.compare where
  eq_of_compare {first second} same := by
    have ⟨positions, forks⟩ := compareLex_eq_eq.mp same
    cases first
    cases second
    exact (Crossing.mk.injEq ..).mpr
      ⟨Std.LawfulEqOrd.eq_of_compare positions, Std.LawfulEqOrd.eq_of_compare forks⟩

end Crossing

/-- The crossings that a search has met. -/
abbrev Crossings := Std.TreeSet Crossing Crossing.compare

namespace Automaton

/-- Takes the first of the paths that are left, with the attempt that stands at its
start, and puts the paths from the fork at its end in front of the others. -/
def explore (forks : Array Fork) : Nat → List (Path × Attempt) → Crossings → Option Attempt
  | 0, _, _ => none
  | _ + 1, [], _ => none
  | fuel + 1, (path, attempt) :: left, met =>
    match Step.takeAll path.steps attempt with
    | none => explore forks fuel left met
    | some attempt =>
      match path.fork with
      | none => some attempt
      | some index =>
        let crossing := ⟨attempt.place.position, index⟩
        if met.contains crossing then explore forks fuel left met
        else
          match forks[index]? with
          | none => explore forks fuel left met
          | some fork =>
            explore forks fuel ((fork.preferred, attempt) :: (fork.other, attempt) :: left)
              (met.insert crossing)

/-- The preferred match in a text. There are two paths from each fork at each position,
besides the first, so the search ends in as many turns. -/
def search (automaton : Automaton) (text : List Char) : Option Attempt :=
  explore automaton.forks (2 * (automaton.forks.size * (text.length + 1)) + 2)
    [(automaton.start, { place := .start text })] ∅

end Automaton

end Stencil.Regex
