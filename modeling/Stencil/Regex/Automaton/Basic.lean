import Stencil.Regex.Attempt
import Stencil.Regex.Node.Basic
/-!
# Automata

An automaton consists of paths. The steps of a path are taken one after another; then
the path ends the match, or it leads to a fork, where one of two paths is next. A node
is compiled in front of the automaton that goes on after it. Copies of a node take
forks of their own.
-/
namespace Stencil.Regex

inductive Step where
  | move (members : CharClass)
  | check (assertion : Assertion)
  | openGroup
  | closeGroup (index : Nat)
deriving DecidableEq

/-- Steps in order, and the fork that they lead to; without one the match is complete. -/
structure Path where
  steps : List Step := []
  fork : Option Nat := none
deriving DecidableEq

namespace Path

/-- The path that leads straight to a fork. -/
def toFork (index : Nat) : Path where
  fork := some index

def after (step : Step) (path : Path) : Path :=
  { path with steps := step :: path.steps }

end Path

/-- The two paths from a fork. The second is taken only if the first fails. -/
structure Fork where
  preferred : Path
  other : Path
deriving DecidableEq

namespace Fork

/-- A fork between a further round and what comes after the rounds. -/
def ofRound (greedy : Bool) (round exit : Path) : Fork :=
  if greedy then ⟨round, exit⟩ else ⟨exit, round⟩

end Fork

structure Automaton where
  start : Path := {}
  forks : Array Fork := #[]
deriving DecidableEq

namespace Automaton

/-- The same automaton after one step. -/
def after (step : Step) (automaton : Automaton) : Automaton :=
  { automaton with start := automaton.start.after step }

/-- Adds a fork and starts at it. -/
def addFork (fork : Fork) (forks : Array Fork) : Automaton :=
  ⟨.toFork forks.size, forks.push fork⟩

/-- Puts a fork to a way out in front of a round. -/
def orExit (greedy : Bool) (exit : Path) : Automaton → Automaton
  | ⟨round, forks⟩ => addFork (.ofRound greedy round exit) forks

end Automaton

namespace Node

/-- The number of forks that a node takes. -/
def forkCount : Node → Nat
  | empty | set _ _ | assertion _ => 0
  | sequence first second => first.forkCount + second.forkCount
  | choice first second => first.forkCount + second.forkCount + 1
  | capture _ inside => inside.forkCount
  | repetition bounds _ inside =>
    match bounds.most with
    | some most =>
      bounds.least * inside.forkCount + (most - bounds.least) * (inside.forkCount + 1)
    | none =>
      if bounds.least = 0 && !inside.consumes then inside.forkCount + 2
      else max 1 bounds.least * inside.forkCount + 1

/-- The automaton that matches a node and then goes on as another. After each round of
an unbounded repetition there is a fork to a further round or on. If the least number of
rounds is zero there is also a fork before the first round: the same one if every round
takes a character, otherwise one of its own. -/
def before : Node → Automaton → Automaton
  | empty, rest => rest
  | set _ members, rest => rest.after (.move members)
  | assertion condition, rest => rest.after (.check condition)
  | sequence first second, rest => first.before (second.before rest)
  | choice first second, ⟨exit, forks⟩ =>
    let ⟨other, forks⟩ := second.before ⟨exit, forks⟩
    let ⟨preferred, forks⟩ := first.before ⟨exit, forks⟩
    Automaton.addFork ⟨preferred, other⟩ forks
  | capture index inside, rest =>
    (inside.before (rest.after (.closeGroup index))).after .openGroup
  | repetition bounds greedy inside, ⟨exit, forks⟩ =>
    match bounds.most with
    | some most =>
      Nat.repeat inside.before bounds.least
        (Nat.repeat (fun rest => (inside.before rest).orExit greedy exit)
          (most - bounds.least) ⟨exit, forks⟩)
    | none =>
      let again := Path.toFork (forks.size + inside.forkCount)
      let ⟨round, forks⟩ := inside.before ⟨again, forks⟩
      let forks := forks.push (.ofRound greedy round exit)
      if bounds.least = 0 then
        if inside.consumes then ⟨again, forks⟩
        else Automaton.orExit greedy exit ⟨round, forks⟩
      else Nat.repeat inside.before (bounds.least - 1) ⟨round, forks⟩

private theorem size_repeat {step : Automaton → Automaton} {added : Nat}
    (size_step : ∀ rest, (step rest).forks.size = rest.forks.size + added)
    (rounds : Nat) (rest : Automaton) :
    (Nat.repeat step rounds rest).forks.size = rest.forks.size + rounds * added := by
  induction rounds with
  | zero => simp [Nat.repeat]
  | succ rounds ih => rw [Nat.repeat, size_step, ih, Nat.add_mul, Nat.one_mul, Nat.add_assoc]

/-- A node adds as many forks as it takes, so the fork after a round has the index that
the round is given beforehand. -/
theorem size_forks_before (node : Node) (rest : Automaton) :
    (node.before rest).forks.size = rest.forks.size + node.forkCount := by
  induction node generalizing rest with
  | empty => rfl
  | set alphabet members => rfl
  | assertion condition => rfl
  | sequence first second ihFirst ihSecond =>
    rw [before, ihFirst, ihSecond, forkCount]
    omega
  | choice first second ihFirst ihSecond =>
    simp only [before, Automaton.addFork, Array.size_push, ihFirst, ihSecond, forkCount]
    omega
  | capture index inside ih => exact ih _
  | repetition bounds greedy inside ih =>
    obtain ⟨least, most⟩ := bounds
    cases most with
    | some most =>
      simp only [before, forkCount]
      rw [size_repeat ih, size_repeat fun rest => by
        simp only [Automaton.orExit, Automaton.addFork, Array.size_push, ih]
        exact Nat.add_assoc ..]
      change rest.forks.size + _ + _ = _
      omega
    | none =>
      cases least with
      | zero =>
        cases eats : inside.consumes <;>
          simp [before, forkCount, Automaton.orExit, Automaton.addFork, ih, eats] <;> omega
      | succ least =>
        simp only [before, forkCount]
        rw [if_neg (Nat.succ_ne_zero least), size_repeat ih]
        simp [ih, Nat.add_mul]
        omega

/-- The node after any text, as little of it as possible. -/
def anywhere (node : Node) : Node :=
  sequence (repetition .any false (set .unicode .all)) node

end Node

namespace Automaton

/-- The automaton that finds the preferred match of a node at the first place that has one. -/
def ofNode (node : Node) : Automaton :=
  node.anywhere.before {}

end Automaton

end Stencil.Regex
