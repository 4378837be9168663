import Stencil.Regex.Pattern.Basic
import Stencil.Regex.SyntaxFault
/-!
# Nodes

A node is what is left of a pattern when flags are resolved and groups are numbered:
the form that is matched. Of two choices the first is preferred. Sequences and choices
lean to the left, and no part of a sequence is empty, so that expressions which differ
only in how they are grouped have the same node. A class keeps the alphabet that it was
written in, unless it holds one character at most.
-/
namespace Stencil.Regex

inductive Node where
  | empty
  | set (alphabet : Alphabet) (members : CharClass)
  | assertion (assertion : Assertion)
  | sequence (first second : Node)
  | choice (first second : Node)
  | capture (index : Nat) (inside : Node)
  | repetition (bounds : Bounds) (greedy : Bool) (inside : Node)
deriving DecidableEq

namespace Node

/-- Whether every match of the node takes at least one character. -/
def consumes : Node → Bool
  | empty | assertion _ => false
  | set _ _ => true
  | sequence first second => second.consumes || first.consumes
  | choice first second => second.consumes && first.consumes
  | capture _ inside => inside.consumes
  | repetition bounds _ inside => bounds.least != 0 && inside.consumes

/-- Whether no match of the node takes a character. -/
def isVacuous : Node → Bool
  | empty | assertion _ => true
  | set _ _ => false
  | sequence first second | choice first second => second.isVacuous && first.isVacuous
  | capture _ inside | repetition _ _ inside => inside.isVacuous

/-- The greatest index of a capture group, or zero if there is none. -/
def lastGroup : Node → Nat
  | empty | set _ _ | assertion _ => 0
  | sequence first second | choice first second => max first.lastGroup second.lastGroup
  | capture index inside => max index inside.lastGroup
  | repetition _ _ inside => inside.lastGroup

/-- The node of a class. -/
def ofClass (alphabet : Alphabet) (members : CharClass) : Node :=
  if members.isSingle || members = .empty then set .unicode members else set alphabet members

/-- One node and then another. -/
def andThen (first : Node) : Node → Node
  | empty => first
  | sequence middle last => (first.andThen middle).andThen last
  | second =>
    match first with
    | empty => second
    | _ => sequence first second

/-- One node or else another. -/
def orElse (first : Node) : Node → Node
  | choice middle last => (first.orElse middle).orElse last
  | second => choice first second

/-- A repetition within bounds. What takes no character does no more in many rounds than
in one. No rounds leave nothing, groups included, and exactly one leaves the node. -/
def repeated (bounds : Bounds) (greedy : Bool) (inside : Node) : Node :=
  let bounds := if inside.isVacuous then bounds.withinOne else bounds
  if bounds = ⟨0, some 0⟩ then empty
  else if bounds = ⟨1, some 1⟩ then inside
  else repetition bounds greedy inside

/-- The items of a sequence, in order, followed by those in `rest`. -/
def itemsOnto : Node → List Node → List Node
  | empty, rest => rest
  | sequence first second, rest => first.itemsOnto (second.itemsOnto rest)
  | node, rest => node :: rest

/-- The branches of a choice, in order, followed by those in `rest`. -/
def branchesOnto : Node → List Node → List Node
  | choice first second, rest => first.branchesOnto (second.branchesOnto rest)
  | node, rest => node :: rest

def ofItems (items : List Node) : Node :=
  items.foldl andThen empty

/-- Whether the node takes one certain character. -/
def isLiteral : Node → Bool
  | set _ members => members.isSingle
  | _ => false

/-- The class of the characters of all branches, if each branch is one certain character,
or if each is one of several characters. -/
def classOf? (branches : List Node) : Option CharClass :=
  let classes := branches.filterMap fun
    | set _ members => some members
    | _ => none
  if classes.length < branches.length then none
  else if classes.all (·.isSingle) || classes.all (!·.isSingle) then
    some (classes.foldl .union .empty)
  else none

/-- One branch or else the next. -/
def ofBranches (branches : List Node) : Node :=
  match classOf? branches with
  | some members => set .unicode members
  | none =>
    match branches with
    | [] => empty
    | first :: others => others.foldl orElse first

/-- The parts of a sequence, in order. Characters that follow one another are one part. -/
def parts (node : Node) : List (List Node) :=
  (node.itemsOnto []).splitBy fun item next => item.isLiteral && next.isLiteral

/-- The parts that two sequences begin with alike. -/
def sharedParts : List (List Node) → List (List Node) → List (List Node)
  | first :: rest, other :: others =>
    if first = other then first :: sharedParts rest others else []
  | _, _ => []

/-- Puts in front of a choice the parts that all its branches begin with, if each branch
has more than one part. What comes first in every branch is then settled before any
branch is. -/
def factored (node : Node) : Node :=
  match node.branchesOnto [] with
  | first :: second :: more =>
    let branches := first :: second :: more
    let sequences := branches.map parts
    let shared := (sequences.drop 1).foldl sharedParts first.parts
    if shared.isEmpty || sequences.any (·.length < 2) then ofBranches branches
    else (ofItems shared.flatten).andThen
      (ofBranches (sequences.map fun parts => ofItems (parts.drop shared.length).flatten))
  | _ => node

end Node

namespace Atom

/-- The meaning of an item under flags. In ASCII a character beyond it may only stand
alone, and nothing may stand for several such. -/
def toNode (flags : Flags) : Atom → Except SyntaxFault Node
  | character c =>
    .ok (ofSet (if flags.alphabet = .ascii && 128 ≤ c.toNat then .unicode else flags.alphabet)
      (flags.caseless && (flags.unicode || c.toNat < 128)) (.single c))
  | byte c =>
    if flags.unicode || c.toNat < 128 then .ok (ofSet flags.alphabet flags.caseless (.single c))
    else .error .outsideAlphabet
  | set members _ =>
    if members.fits flags.alphabet then .ok (ofSet flags.alphabet flags.caseless members)
    else .error .outsideAlphabet
  | anyCharacter =>
    if flags.unicode then
      .ok (.set .unicode
        (if flags.dotAll then .all
          else if flags.carriageReturn then .complement ⟨[(0xA, 0xA), (0xD, 0xD)]⟩
          else .complement (.ofRange 0xA 0xA)))
    else .error .outsideAlphabet
  | caret =>
    .ok (.assertion (if flags.multiLine then .lineStart flags.carriageReturn else .textStart))
  | dollar =>
    .ok (.assertion (if flags.multiLine then .lineEnd flags.carriageReturn else .textEnd))
  | textStart => .ok (.assertion .textStart)
  | textEnd => .ok (.assertion .textEnd)
  | word edge => .ok (.assertion (.word flags.alphabet edge))
where
  /-- The node of a set. -/
  ofSet (alphabet : Alphabet) (caseless : Bool) (members : CharSet) : Node :=
    .ofClass alphabet (members.toClass alphabet caseless)

end Atom

/-- A node with what holds after its pattern: the flags and the number of the next
capture group. -/
structure Resolved where
  node : Node
  flags : Flags
  next : Nat

namespace Pattern

/-- Resolves the flags of a pattern and numbers its groups from `next` on. Flags that
are switched last to the end of the group around them, also across bars. What is
repeated no times leaves nothing, its groups included, but their numbers are used. -/
def resolve (flags : Flags) (next : Nat) : Pattern → Except SyntaxFault Resolved
  | empty => .ok ⟨.empty, flags, next⟩
  | .flags change => .ok ⟨.empty, flags.apply change, next⟩
  | atom item => (item.toNode flags).map fun node => ⟨node, flags, next⟩
  | sequence first second => do
    let before ← first.resolve flags next
    let after ← second.resolve before.flags before.next
    .ok ⟨before.node.andThen after.node, after.flags, after.next⟩
  | choice first second => do
    let before ← first.resolve flags next
    let after ← second.resolve before.flags before.next
    .ok ⟨before.node.orElse after.node, after.flags, after.next⟩
  | capture inside => do
    let within ← inside.resolve flags (next + 1)
    .ok ⟨.capture next within.node.factored, flags, within.next⟩
  | group change inside => do
    let within ← inside.resolve (flags.apply change) next
    .ok ⟨within.node.factored, flags, within.next⟩
  | repetition bounds greedy inside => do
    let within ← inside.resolve flags next
    .ok ⟨.repeated bounds (greedy != flags.swapGreed) within.node, flags, within.next⟩

/-- The node of a whole pattern. -/
def toNode (flags : Flags) (pattern : Pattern) : Except SyntaxFault Node :=
  (pattern.resolve flags 1).map fun resolved => resolved.node.factored

theorem next_of_resolve {flags : Flags} {next : Nat} {pattern : Pattern} {resolved : Resolved}
    (h : pattern.resolve flags next = .ok resolved) :
    resolved.next = next + pattern.groupCount := by
  induction pattern generalizing flags next resolved with
  | empty =>
    cases h
    rfl
  | atom item =>
    unfold resolve at h
    cases node : item.toNode flags with
    | error fault =>
      rw [node] at h
      cases h
    | ok found =>
      rw [node] at h
      cases h
      rfl
  | flags change =>
    cases h
    rfl
  | sequence first second ihFirst ihSecond | choice first second ihFirst ihSecond =>
    obtain ⟨before, hBefore, h⟩ := bind_eq_ok h
    obtain ⟨after, hAfter, h⟩ := bind_eq_ok h
    cases h
    simp only [groupCount, ihSecond hAfter, ihFirst hBefore, Nat.add_assoc]
  | capture inside ih =>
    obtain ⟨within, hWithin, h⟩ := bind_eq_ok h
    cases h
    simp only [groupCount, ih hWithin, Nat.add_assoc]
  | group change inside ih | repetition bounds greedy inside ih =>
    obtain ⟨within, hWithin, h⟩ := bind_eq_ok h
    cases h
    have same := ih hWithin
    exact same

end Pattern

end Stencil.Regex
