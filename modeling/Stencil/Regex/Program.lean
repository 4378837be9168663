import Stencil.Regex.Automaton.Search
import Stencil.Regex.Node.Weight
import Stencil.Regex.Pattern.Build
/-!
# Compiled expressions

An expression is read, and it compiles if it keeps to the size limit. A match gives
the text of each capture group, or none for a group that took no part.
-/
namespace Stencil.Regex

/-- Why an expression does not compile. -/
inductive Fault where
  | malformed (cause : SyntaxFault)
  | tooLarge (limit : Nat)
deriving DecidableEq

namespace Fault

def message : Fault → String
  | malformed cause => cause.message
  | tooLarge limit => "Compiled regex exceeds size limit of " ++ toString limit ++ " bytes."

end Fault

/-- A compiled expression with the number of its capture groups. -/
structure Program where
  automaton : Automaton
  groupCount : Nat
deriving DecidableEq

namespace Program

/-- The size limit where none is given: ten mebibytes. -/
def defaultSizeLimit : Nat := 10485760

/-- The bytes that the compiled form of a node takes, read in whichever direction takes
more: besides the node, there is the loop up to its start, the end of the match and,
forward, the group of the whole match.

Small limits are kept approximately. The loop is counted also where the expression is
anchored at the start and needs none, and the limit is applied also to plain texts without
groups and assertions, which can be searched for without a compiled form. -/
def size (node : Node) : Nat :=
  let loop := stateWeight + forkWeight 2
  max (loop + 3 * stateWeight + node.weight false false) (loop + stateWeight + node.weight true false)

def ofNode (node : Node) : Program :=
  ⟨.ofNode node, node.lastGroup⟩

/-- Compiles an expression. A malformed one is reported before one that is too large. -/
def compile (expression : List Char) (caseless : Bool) (sizeLimit : Option Nat) :
    Except Fault Program := do
  let pattern ← (Pattern.read expression).mapError .malformed
  let node ← (pattern.toNode { caseless }).mapError .malformed
  let limit := sizeLimit.getD defaultSizeLimit
  if size node ≤ limit then .ok (ofNode node) else .error (.tooLarge limit)

/-- The groups of the first match, from group one on. -/
def captures? (program : Program) (input : List Char) : Option (List (Option (List Char))) :=
  (program.automaton.search input).map fun attempt =>
    (List.range' 1 program.groupCount).map attempt.group?

end Program

end Stencil.Regex
