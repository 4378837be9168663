import Stencil.Regex.Node.Basic
import Stencil.Text.ByteRanges
/-!
# Weights

The weight of a node is the number of bytes that its compiled form takes. It follows
from the node alone, so an expression that is too large is refused before it is
compiled. An expression is weighed twice, as it is read forward, with its groups, and
as it is read backward, without them. Characters are weighed as the bytes that encode
them.
-/
namespace Stencil.Regex

/-- The bytes for one state. -/
def stateWeight : Nat := 32

/-- The bytes for a state that chooses between others. -/
def forkWeight (others : Nat) : Nat :=
  stateWeight + 4 * others

/-- The bytes for a state with one or more byte ranges, each with a state after it. -/
def rangesWeight (ranges : Nat) : Nat :=
  if ranges = 1 then stateWeight else stateWeight + 8 * ranges

namespace CharClass

/-- The states of a tree of byte ranges, each given by the sequences that it leads to.
Sequences that begin alike share their first state. -/
def treeStates : Nat → List (List (Nat × Nat)) → List (List (List (Nat × Nat)))
  | 0, _ => []
  | depth + 1, sequences =>
    let starts := sequences.splitBy fun first second => first.head? == second.head?
    sequences :: starts.flatMap fun start =>
      let ends := start.map List.tail
      if ends == [[]] then [] else treeStates depth ends

/-- Forward, states that lead to the same sequences are one. -/
def forwardWeight (sequences : List (List (Nat × Nat))) : Nat :=
  (treeStates 4 sequences).eraseDups.foldl
    (fun total sequences =>
      let starts := sequences.splitBy fun first second => first.head? == second.head?
      total + stateWeight + 8 * starts.length)
    stateWeight

/-- The length of what two sequences begin with alike. -/
def sharedLength : List (Nat × Nat) → List (Nat × Nat) → Nat
  | first :: rest, other :: others => if first = other then sharedLength rest others + 1 else 0
  | _, _ => 0

/-- Backward, states that stand after the same bytes are one. -/
def backwardWeight (sequences : List (List (Nat × Nat))) : Nat :=
  let states := (sequences.zip ([] :: sequences)).foldl
    (fun states (sequence, before) =>
      states + sequence.length - sharedLength sequence before)
    0
  stateWeight + forkWeight sequences.length + stateWeight * states

/-- The bytes for one use of a class. Of a class within ASCII all ranges share a state. -/
def weight (backward : Bool) (members : CharClass) : Nat :=
  let sequences := members.ranges.flatMap fun (low, high) => Text.byteSequences low high
  if members.isSingle then stateWeight * (sequences.foldl (· + ·.length) 0)
  else if members.ranges.all (·.2 < 128) then 2 * stateWeight + 8 * members.ranges.length
  else if backward then backwardWeight sequences
  else forwardWeight sequences

end CharClass

namespace Node

/-- The bytes of a node that takes one certain text. -/
def literalBytes? (node : Node) : Option (List Nat) :=
  match node.parts with
  | [part] => (part.mapM fun
      | set _ ⟨[(low, high)]⟩ =>
        if low = high then some ((String.utf8EncodeChar (Char.ofNat low)).map UInt8.toNat)
        else none
      | _ => none).map List.flatten
  | _ => none

/-- The bytes for a choice between texts. Texts that begin alike share states up to the
place where they differ, unless one that ends before is preferred to the latter. -/
def textsWeight : Nat → List (List Nat) → Nat
  | 0, _ => 0
  | depth + 1, texts =>
    let runs := texts.splitBy fun first second => first.isEmpty == second.isEmpty
    let filled := runs.filter fun run => run.any (!·.isEmpty)
    let ends := (texts.filter (·.isEmpty)).length
    if filled.isEmpty then 0
    else filled.foldl
      (fun total run =>
        let starts := (run.filterMap List.head?).eraseDups
        starts.foldl
          (fun total byte =>
            total + textsWeight depth
              ((run.filter fun text => text.head? == some byte).map List.tail))
          (total + rangesWeight starts.length))
      (forkWeight (filled.length + ends))

/-- The texts of a choice, if each of its branches takes one certain text. -/
def texts? (node : Node) : Option (List (List Nat)) :=
  (node.branchesOnto []).mapM literalBytes?

/-- The bytes for a node, or for a branch of a choice with its part of the choice. A
repetition takes as many copies as it has rounds. -/
def weight (backward : Bool) (asBranch : Bool) : Node → Nat
  | empty | assertion _ => stateWeight + joint
  | set _ members => members.weight backward + joint
  | sequence first second => first.weight backward false + second.weight backward false + joint
  | choice first second =>
    if asBranch then first.weight backward true + second.weight backward true
    else
      match (choice first second).texts? with
      | some texts =>
        let texts := if backward then texts.map List.reverse else texts
        stateWeight + textsWeight ((texts.map List.length).foldl max 0) texts
      | none =>
        2 * stateWeight + first.weight backward true + second.weight backward true
  | capture _ inside =>
    inside.weight backward false + (if backward then 0 else 2 * stateWeight) + joint
  | repetition bounds _ inside =>
    let round := inside.weight backward false
    joint + match bounds.most with
    | some most =>
      let joints :=
        if most = bounds.least then 0
        else if bounds.least = 0 && most != 1 then 2 * stateWeight
        else stateWeight
      joints + bounds.least * round + (most - bounds.least) * (round + forkWeight 2)
    | none =>
      if bounds.least = 0 && !inside.consumes then round + stateWeight + 2 * forkWeight 2
      else max 1 bounds.least * round + forkWeight 2
where
  /-- The bytes for the link to a branch. -/
  joint : Nat := if asBranch then 4 else 0

end Node

end Stencil.Regex
