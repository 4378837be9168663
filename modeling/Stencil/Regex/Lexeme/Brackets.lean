import Stencil.Regex.AsciiClass
import Stencil.Regex.Lexeme.Escape
/-!
# Bracketed classes

A class in brackets is a union of members, or operations on such unions, which are
carried out from left to right. Classes may stand inside one another.
-/
namespace Stencil.Regex

namespace Lexeme

/-- One member of a bracketed class: a character or a named class. -/
def readMember (verbose : Bool) : List Char → Except SyntaxFault (CharSet × List Char)
  | [] => .error .unclosedClass
  | '\\' :: rest => do
    match ← readEscape verbose rest with
    | (.character c, rest) | (.byte c, rest) => .ok (.single c, rest)
    | (.set set _, rest) => .ok (set, rest)
    | _ => .error .assertionInClass
  | c :: rest => .ok (.single c, rest)

/-- The end of a range. A named class is no end. -/
def rangeEnd : CharSet → Except SyntaxFault Char
  | .range c _ => .ok c
  | _ => .error .classEndsRange

/-- The character after a hyphen and the blanks that follow it. Of a comment that stands
there the first character counts. -/
def afterHyphen (verbose : Bool) (text : List Char) : Option Char :=
  if verbose then
    match text.dropWhile isSpace with
    | [] => text.head?
    | '#' :: comment =>
      match comment.dropWhile isSpace with
      | [] => text.head?
      | c :: _ => some c
    | c :: _ => some c
  else text.head?

/-- One member or one range of a bracketed class. A hyphen makes a range unless the
class ends after it or another hyphen follows. -/
def readRange (verbose : Bool) (text : List Char) : Except SyntaxFault (CharSet × List Char) := do
  let (first, rest) ← readMember verbose text
  match trim verbose rest with
  | '-' :: after =>
    if afterHyphen verbose after = some ']' || afterHyphen verbose after = some '-' then
      .ok (first, '-' :: after)
    else
      let (second, rest) ← readMember verbose (trim verbose after)
      let low ← rangeEnd first
      let high ← rangeEnd second
      if low ≤ high then .ok (.range low high, rest) else .error (.reversedRange low high)
  | rest => .ok (first, rest)

/-- Reads the name of a class up to the colon and the bracket that close it. -/
def asciiMembers? (negated : Bool) (text : List Char) : Option (CharSet × List Char) :=
  match text.dropWhile (· != ':') with
  | ':' :: ']' :: rest =>
    (asciiClass? (String.ofList (text.takeWhile (· != ':')))).map fun members =>
      (.complementIf negated (.named members), rest)
  | _ => none

/-- Reads what follows the bracket of a class that is named between colons. -/
def asciiClassAt? : List Char → Option (CharSet × List Char)
  | ':' :: '^' :: text => asciiMembers? true text
  | ':' :: text => asciiMembers? false text
  | _ => none

end Lexeme

/-- What an operation makes of the sets on its two sides. -/
abbrev SetOperation := CharSet → CharSet → CharSet

/-- A bracketed class that is being read: whether it holds all other characters, the
left side of the operation that is waiting for its right side, and the members of the
union that is being read, how many they are, and the levels of the classes among them. -/
structure OpenClass where
  negated : Bool
  pending : Option (SetOperation × CharSet × Nat) := none
  members : CharSet := .empty
  count : Nat := 0
  levels : Nat := 0

namespace OpenClass

def add (openClass : OpenClass) (set : CharSet) (levels : Nat) : OpenClass :=
  { openClass with
    members := .union openClass.members set
    count := openClass.count + 1
    levels := max openClass.levels levels }

/-- The set that was read so far with its levels. A union of several members is one level,
and so is an operation. -/
def content (openClass : OpenClass) : CharSet × Nat :=
  let levels := openClass.levels + (if 1 < openClass.count then 1 else 0)
  match openClass.pending with
  | none => (openClass.members, levels)
  | some (operation, left, leftLevels) =>
    (operation left openClass.members, max leftLevels levels + 1)

/-- What was read so far becomes the left side of an operation. -/
def operate (openClass : OpenClass) (operation : SetOperation) : OpenClass where
  negated := openClass.negated
  pending := some (operation, openClass.content)

/-- The brackets are one level. -/
def close (openClass : OpenClass) : CharSet × Nat :=
  let (set, levels) := openClass.content
  (.complementIf openClass.negated set, levels + 1)

end OpenClass

namespace Lexeme

/-- Reads the members that stand first in a class and need no special place there: hyphens,
or a closing bracket. -/
def readLeading (verbose negated : Bool) (text : List Char) : OpenClass × List Char :=
  let (hyphens, text) := takeSpelled verbose (· == '-') false text
  let openClass : OpenClass :=
    hyphens.foldl (fun openClass hyphen => openClass.add (.single hyphen) 0) { negated }
  match text with
  | ']' :: rest =>
    if hyphens.isEmpty then (openClass.add (.single ']') 0, rest) else (openClass, ']' :: rest)
  | rest => (openClass, rest)

/-- Reads what follows an opening bracket up to the first member that stands anywhere. A
caret negates the class. -/
def readClassHead (verbose : Bool) (text : List Char) : OpenClass × List Char :=
  match trim verbose text with
  | '^' :: rest => readLeading verbose true rest
  | text => readLeading verbose false text

/-- Reads members up to the bracket that closes the class, with the classes that
enclose it outside in. -/
def readClassBody (verbose : Bool) (enclosing : List OpenClass) (openClass : OpenClass) :
    Nat → List Char → Except SyntaxFault ((CharSet × Nat) × List Char)
  | 0, _ => .error .unclosedClass
  | fuel + 1, text =>
    match trim verbose text with
    | [] => .error .unclosedClass
    | ']' :: rest =>
      let (set, levels) := openClass.close
      match enclosing with
      | [] => .ok ((set, levels), rest)
      | outer :: enclosing => readClassBody verbose enclosing (outer.add set levels) fuel rest
    | '[' :: rest =>
      match asciiClassAt? rest with
      | some (set, rest) => readClassBody verbose enclosing (openClass.add set 0) fuel rest
      | none =>
        let (inner, rest) := readClassHead verbose rest
        readClassBody verbose (openClass :: enclosing) inner fuel rest
    | '&' :: '&' :: rest => readClassBody verbose enclosing (openClass.operate .inter) fuel rest
    | '-' :: '-' :: rest => readClassBody verbose enclosing (openClass.operate .diff) fuel rest
    | '~' :: '~' :: rest => readClassBody verbose enclosing (openClass.operate .symmDiff) fuel rest
    | text => do
      let (set, rest) ← readRange verbose text
      readClassBody verbose enclosing (openClass.add set 0) fuel rest

/-- Reads what follows an opening bracket. -/
def readClass (verbose : Bool) (text : List Char) : Except SyntaxFault (Atom × List Char) := do
  let (openClass, rest) := readClassHead verbose text
  let ((set, levels), rest) ← readClassBody verbose [] openClass (rest.length + 1) rest
  .ok (.set set levels, rest)

theorem readMember_suffix {verbose : Bool} {text rest : List Char} {found : CharSet}
    (h : readMember verbose text = .ok (found, rest)) : rest <:+ text := by
  unfold readMember at h
  split at h
  · cases h
  · obtain ⟨⟨item, after⟩, read, h⟩ := bind_eq_ok h
    have inner := readEscape_suffix read
    split at h
    · rename_i same
      cases same
      cases h
      exact inner.trans (List.suffix_cons _ _)
    · rename_i same
      cases same
      cases h
      exact inner.trans (List.suffix_cons _ _)
    · rename_i same
      cases same
      cases h
      exact inner.trans (List.suffix_cons _ _)
    · cases h
  · cases h
    exact List.suffix_cons _ _

theorem readRange_suffix {verbose : Bool} {text rest : List Char} {found : CharSet}
    (h : readRange verbose text = .ok (found, rest)) : rest <:+ text := by
  obtain ⟨⟨first, next⟩, read, h⟩ := bind_eq_ok h
  have outer := (trim_suffix verbose next).trans (readMember_suffix read)
  dsimp only at h
  split at h
  · rename_i after front
    rw [front] at outer
    split at h
    · cases h
      exact outer
    · obtain ⟨⟨second, behind⟩, more, h⟩ := bind_eq_ok h
      obtain ⟨low, _, h⟩ := bind_eq_ok h
      obtain ⟨high, _, h⟩ := bind_eq_ok h
      dsimp only at h
      split at h
      · cases h
        exact (((readMember_suffix more).trans (trim_suffix verbose after)).trans
          (List.suffix_cons _ _)).trans outer
      · cases h
  · cases h
    exact outer

private theorem asciiMembers?_suffix {negated : Bool} {text rest : List Char} {found : CharSet}
    (h : asciiMembers? negated text = some (found, rest)) : rest <:+ text := by
  unfold asciiMembers? at h
  split at h
  · rename_i after front
    obtain ⟨_, _, same⟩ := Option.map_eq_some_iff.mp h
    cases same
    have behind : ':' :: ']' :: rest <:+ text := front ▸ List.dropWhile_suffix _
    exact ((List.suffix_cons _ _).trans (List.suffix_cons _ _)).trans behind
  · cases h

theorem asciiClassAt?_suffix {text rest : List Char} {found : CharSet}
    (h : asciiClassAt? text = some (found, rest)) : rest <:+ text := by
  unfold asciiClassAt? at h
  split at h
  · exact ((asciiMembers?_suffix h).trans (List.suffix_cons _ _)).trans (List.suffix_cons _ _)
  · exact (asciiMembers?_suffix h).trans (List.suffix_cons _ _)
  · cases h

theorem readLeading_suffix (verbose negated : Bool) (text : List Char) :
    (readLeading verbose negated text).2 <:+ text := by
  have behind := takeSpelled_suffix verbose (· == '-') false text
  unfold readLeading
  split
  rename_i hyphens after taken
  rw [taken] at behind
  dsimp only
  split
  · split
    · exact (List.suffix_cons _ _).trans behind
    · exact behind
  · exact behind

theorem readClassHead_suffix (verbose : Bool) (text : List Char) :
    (readClassHead verbose text).2 <:+ text := by
  have whole := trim_suffix verbose text
  unfold readClassHead
  split
  · rename_i front
    rw [front] at whole
    exact ((readLeading_suffix ..).trans (List.suffix_cons _ _)).trans whole
  · exact (readLeading_suffix ..).trans whole

theorem readClassBody_suffix {verbose : Bool} {enclosing : List OpenClass}
    {openClass : OpenClass} {fuel : Nat} {text rest : List Char} {found : CharSet × Nat}
    (h : readClassBody verbose enclosing openClass fuel text = .ok (found, rest)) :
    rest <:+ text := by
  induction fuel generalizing enclosing openClass text with
  | zero => cases h
  | succ fuel ih =>
    have whole := trim_suffix verbose text
    unfold readClassBody at h
    split at h
    · cases h
    · rename_i front
      rw [front] at whole
      have inner := (List.suffix_cons _ _).trans whole
      dsimp only at h
      split at h
      · cases h
        exact inner
      · exact (ih h).trans inner
    · rename_i tail front
      rw [front] at whole
      have inner := (List.suffix_cons _ _).trans whole
      split at h
      · rename_i named
        exact ((ih h).trans (asciiClassAt?_suffix named)).trans inner
      · exact ((ih h).trans (readClassHead_suffix verbose tail)).trans inner
    · rename_i front
      rw [front] at whole
      exact ((ih h).trans (List.suffix_cons _ _)).trans ((List.suffix_cons _ _).trans whole)
    · rename_i front
      rw [front] at whole
      exact ((ih h).trans (List.suffix_cons _ _)).trans ((List.suffix_cons _ _).trans whole)
    · rename_i front
      rw [front] at whole
      exact ((ih h).trans (List.suffix_cons _ _)).trans ((List.suffix_cons _ _).trans whole)
    · obtain ⟨⟨set, after⟩, read, h⟩ := bind_eq_ok h
      exact ((ih h).trans (readRange_suffix read)).trans whole

theorem readClass_suffix {verbose : Bool} {text rest : List Char} {found : Atom}
    (h : readClass verbose text = .ok (found, rest)) : rest <:+ text := by
  obtain ⟨⟨⟨set, levels⟩, after⟩, read, h⟩ := bind_eq_ok h
  cases h
  exact (readClassBody_suffix read).trans (readClassHead_suffix verbose text)

end Lexeme

end Stencil.Regex
