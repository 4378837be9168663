import Stencil.Text.Ranges
/-!
# Classes of characters in normal form

A class is given by inclusive ranges of code points. The ranges ascend, and at least one
code point lies between any two, so classes that hold the same characters are equal.
-/
namespace Stencil.Regex

structure CharClass where
  ranges : List (Nat × Nat)
deriving DecidableEq

namespace CharClass

def contains (members : CharClass) (c : Char) : Bool :=
  Text.inRanges members.ranges c

def empty : CharClass := ⟨[]⟩

def ofRange (low high : Nat) : CharClass := ⟨[(low, high)]⟩

def lastCode : Nat := 0x10FFFF

/-- Every character. -/
def all : CharClass := ofRange 0 lastCode

/-- Whether the class holds one character and no other. -/
def isSingle : CharClass → Bool
  | ⟨[(low, high)]⟩ => low = high
  | _ => false

/-- Adds a range to ascending ranges, and joins it with those that it meets or touches. -/
def insertRange (low high : Nat) : List (Nat × Nat) → List (Nat × Nat)
  | [] => [(low, high)]
  | (first, last) :: rest =>
    if high + 1 < first then (low, high) :: (first, last) :: rest
    else if last + 1 < low then (first, last) :: insertRange low high rest
    else insertRange (min low first) (max high last) rest

def insert (members : CharClass) (low high : Nat) : CharClass :=
  ⟨insertRange low high members.ranges⟩

/-- The class of all codes in some ranges. -/
def ofRanges (ranges : List (Nat × Nat)) : CharClass :=
  ranges.foldr (fun (low, high) members => members.insert low high) empty

def union (first second : CharClass) : CharClass :=
  ofRanges (first.ranges.merge second.ranges fun range other => range.1 ≤ other.1)

def unionAll (classes : List CharClass) : CharClass :=
  classes.foldl union empty

/-- The class of some codes. -/
def ofCodes (codes : List Nat) : CharClass :=
  ofRanges (codes.mergeSort.map fun code => (code, code))

/-- The code point before one that is not the first. Those that stand for half a character
are left out. -/
def codeBefore (code : Nat) : Nat :=
  if code = 0xE000 then 0xD7FF else code - 1

def codeAfter (code : Nat) : Nat :=
  if code = 0xD7FF then 0xE000 else code + 1

/-- The gaps between ascending ranges, from a code point on. -/
def gapsFrom (next : Nat) : List (Nat × Nat) → List (Nat × Nat)
  | [] => if next ≤ lastCode then [(next, lastCode)] else []
  | (low, high) :: rest =>
    if next < low then (next, codeBefore low) :: gapsFrom (codeAfter high) rest
    else gapsFrom (codeAfter high) rest

def complement (members : CharClass) : CharClass :=
  ⟨gapsFrom 0 members.ranges⟩

/-- The characters of both classes. -/
def inter (first second : CharClass) : CharClass :=
  ⟨first.ranges.flatMap fun (low, high) =>
    second.ranges.filterMap fun (start, stop) =>
      if max low start ≤ min high stop then some (max low start, min high stop) else none⟩

/-- The characters of the first class that the second does not hold. -/
def diff (first second : CharClass) : CharClass :=
  first.inter second.complement

/-- The characters of one class but not of both. -/
def symmDiff (first second : CharClass) : CharClass :=
  (first.union second).diff (first.inter second)

end CharClass

end Stencil.Regex
