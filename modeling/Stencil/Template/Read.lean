import Stencil.Dictionary
import Stencil.Log
import Stencil.Template.Basic
import Stencil.Template.Fault
/-!
# Reading a template

A window is a stretch of the source. Its first segment is cut off by looking at
its first character: a name in braces is a placeholder, `<` opens a span that
reaches to the `>` at which the angle brackets balance, and all else is literal
text up to the next `{` or `<`. The inside of a span is a window of its own.
Offsets count from the start of the whole source.
-/
namespace Stencil.Template

open Text (byteLength)

def isNameCharacter (c : Char) : Bool :=
  c.isLower || c == '-'

def isName (text : List Char) : Bool :=
  !text.isEmpty && text.all isNameCharacter

/-- Braces hold no delimiter but the one that closes them. -/
def continuesBraces (c : Char) : Bool :=
  c != '{' && c != '}' && c != '<' && c != '>'

def continuesLiteral (c : Char) : Bool :=
  c != '{' && c != '<'

/-- Splits a text at the first `>` that closes one bracket more than the text opens
and `depth` brackets more are open already. -/
def splitAtClose : Nat → List Char → Option (List Char × List Char)
  | _, [] => none
  | depth, '<' :: rest =>
    (splitAtClose (depth + 1) rest).map fun (inside, after) => ('<' :: inside, after)
  | 0, '>' :: rest => some ([], rest)
  | depth + 1, '>' :: rest =>
    (splitAtClose depth rest).map fun (inside, after) => ('>' :: inside, after)
  | depth, c :: rest =>
    (splitAtClose depth rest).map fun (inside, after) => (c :: inside, after)

/-- The first segment of a window and what follows it, or the fault of a window
whose first delimiter is never closed. -/
inductive Cut where
  | literal (text after : List Char)
  | placeholder (name after : List Char)
  | optional (inside after : List Char)
  | unclosed (kind : FaultKind)
deriving DecidableEq

namespace Cut

/-- Literal text starts with any character and goes on to the next `{` or `<`. -/
def ofLiteral (c : Char) (rest : List Char) : Cut :=
  literal (c :: rest.takeWhile continuesLiteral) (rest.dropWhile continuesLiteral)

/-- Braces around a name are a placeholder, and braces around anything else are text. -/
def ofBraces (rest : List Char) : Cut :=
  match rest.dropWhile continuesBraces with
  | '}' :: after =>
    let name := rest.takeWhile continuesBraces
    if isName name then placeholder name after else ofLiteral '{' rest
  | _ => unclosed .unclosedPlaceholder

def ofAngle (rest : List Char) : Cut :=
  match splitAtClose 0 rest with
  | some (inside, after) => optional inside after
  | none => unclosed .unclosedOptional

/-- Cuts the first segment off the window that starts with `c`. -/
def first (c : Char) (rest : List Char) : Cut :=
  if c = '{' then ofBraces rest
  else if c = '<' then ofAngle rest
  else ofLiteral c rest

end Cut

theorem splitAtClose_eq {depth : Nat} {rest inside after : List Char}
    (h : splitAtClose depth rest = some (inside, after)) : rest = inside ++ '>' :: after := by
  fun_induction splitAtClose depth rest generalizing inside after with
  | case1 => simp at h
  | case2 depth rest ih =>
    obtain ⟨⟨first, last⟩, found, same⟩ := Option.map_eq_some_iff.1 h
    cases same
    simp [ih found]
  | case3 rest =>
    cases h
    rfl
  | case4 depth rest ih =>
    obtain ⟨⟨first, last⟩, found, same⟩ := Option.map_eq_some_iff.1 h
    cases same
    simp [ih found]
  | case5 depth c rest _ _ _ ih =>
    obtain ⟨⟨first, last⟩, found, same⟩ := Option.map_eq_some_iff.1 h
    cases same
    simp [ih found]

namespace Cut

/-- The segments that a window can begin with, each with what tells it from the others. -/
inductive IsFirst (c : Char) (rest : List Char) : Cut → Prop
  | named {name after : List Char} (brace : c = '{')
      (held : rest.takeWhile continuesBraces = name)
      (closed : rest.dropWhile continuesBraces = '}' :: after) (valid : isName name = true) :
      IsFirst c rest (placeholder name after)
  | unnamed {text after : List Char} (brace : c = '{')
      (held : rest.takeWhile continuesBraces = text)
      (closed : rest.dropWhile continuesBraces = '}' :: after) (other : isName text = false) :
      IsFirst c rest (ofLiteral c rest)
  | cutShort (brace : c = '{')
      (stops : ∀ after, rest.dropWhile continuesBraces ≠ '}' :: after) :
      IsFirst c rest (unclosed .unclosedPlaceholder)
  | spanned {inside after : List Char} (angle : c = '<')
      (found : splitAtClose 0 rest = some (inside, after)) :
      IsFirst c rest (optional inside after)
  | unspanned (angle : c = '<') (none : splitAtClose 0 rest = none) :
      IsFirst c rest (unclosed .unclosedOptional)
  | plain (brace : c ≠ '{') (angle : c ≠ '<') : IsFirst c rest (ofLiteral c rest)

variable {c : Char} {rest : List Char}

theorem first_eq_iff {cut : Cut} : first c rest = cut ↔ IsFirst c rest cut := by
  constructor
  · rintro rfl
    unfold first
    split
    · rename_i brace
      unfold ofBraces
      split
      · rename_i closed
        dsimp only
        split
        · rename_i valid
          exact .named brace rfl closed valid
        · rename_i other
          rw [← brace]
          exact .unnamed brace rfl closed (Bool.eq_false_iff.mpr other)
      · rename_i stops
        exact .cutShort brace stops
    · rename_i brace
      split
      · rename_i angle
        unfold ofAngle
        split
        · rename_i found
          exact .spanned angle found
        · rename_i none
          exact .unspanned angle none
      · rename_i angle
        exact .plain brace angle
  · intro h
    cases h with
    | named brace held closed valid => simp [first, ofBraces, brace, held, closed, valid]
    | unnamed brace held closed other => simp [first, ofBraces, brace, held, closed, other]
    | cutShort brace stops =>
      rw [first, if_pos brace, ofBraces]
      split
      · rename_i after closed
        exact absurd closed (stops after)
      · rfl
    | spanned angle found => simp [first, ofAngle, angle, found]
    | unspanned angle none => simp [first, ofAngle, angle, none]
    | plain brace angle => simp [first, brace, angle]

theorem first_eq_literal {text after : List Char} (h : first c rest = literal text after) :
    c :: rest = text ++ after ∧ text ≠ [] := by
  cases first_eq_iff.mp h with
  | unnamed | plain => simp

theorem first_eq_placeholder {name after : List Char} (h : first c rest = placeholder name after) :
    c :: rest = '{' :: name ++ '}' :: after ∧ isName name = true := by
  cases first_eq_iff.mp h with
  | named brace held closed valid =>
    refine ⟨?_, valid⟩
    rw [brace, List.cons_append, ← closed, ← held, List.takeWhile_append_dropWhile]

theorem first_eq_optional {inside after : List Char} (h : first c rest = optional inside after) :
    c :: rest = '<' :: inside ++ '>' :: after := by
  cases first_eq_iff.mp h with
  | spanned angle found => rw [angle, List.cons_append, ← splitAtClose_eq found]

end Cut

/-- Reads a window that starts at byte `offset` of the source. -/
def readWindow (dictionary : Dictionary) (offset : Nat) : List Char → Logged Fault Template
  | [] => pure nil
  | c :: rest =>
    match _cut : Cut.first c rest with
    | .literal text after => do
      let following ← readWindow dictionary (offset + byteLength text) after
      pure (prependLiteral (String.ofList text) following)
    | .placeholder name after =>
      let stop := offset + byteLength name + 2
      if dictionary.contains (String.ofList name) then do
        Logged.emit (.acceptedPlaceholder (String.ofList name))
        let following ← readWindow dictionary stop after
        pure (placeholder (String.ofList name) following)
      else
        Logged.fail (.unknownPlaceholder (String.ofList name) ⟨offset, stop⟩)
    | .optional inside after => do
      let close := offset + 1 + byteLength inside
      Logged.emit (.foundOptional offset close)
      let within ← readWindow dictionary (offset + 1) inside
      let following ← readWindow dictionary (close + 1) after
      pure (optional within following)
    | .unclosed kind => Logged.fail (.unclosed kind offset)
termination_by window => window.length
decreasing_by
  · obtain ⟨whole, nonempty⟩ := Cut.first_eq_literal _cut
    have := congrArg List.length whole
    have := List.length_pos_iff.2 nonempty
    simp only [List.length_cons, List.length_append] at *
    omega
  · have := congrArg List.length (Cut.first_eq_placeholder _cut).1
    simp only [List.length_cons, List.length_append] at *
    omega
  · have := congrArg List.length (Cut.first_eq_optional _cut)
    simp only [List.length_cons, List.length_append] at *
    omega
  · have := congrArg List.length (Cut.first_eq_optional _cut)
    simp only [List.length_cons, List.length_append] at *
    omega

section Cuts

variable {dictionary : Dictionary} {offset : Nat} {c : Char} {rest : List Char}

@[simp] theorem readWindow_nil : readWindow dictionary offset [] = pure nil := by
  rw [readWindow]

theorem readWindow_of_literal {text after : List Char}
    (cut : Cut.first c rest = .literal text after) :
    readWindow dictionary offset (c :: rest) =
      (readWindow dictionary (offset + byteLength text) after >>= fun following =>
        pure (prependLiteral (String.ofList text) following)) := by
  rw [readWindow]
  split <;> simp_all

theorem readWindow_of_placeholder {name after : List Char}
    (cut : Cut.first c rest = .placeholder name after) :
    readWindow dictionary offset (c :: rest) =
      if dictionary.contains (String.ofList name) then
        Logged.emit (.acceptedPlaceholder (String.ofList name)) >>= fun _ =>
          readWindow dictionary (offset + byteLength name + 2) after >>= fun following =>
            pure (placeholder (String.ofList name) following)
      else
        Logged.fail (.unknownPlaceholder (String.ofList name)
          ⟨offset, offset + byteLength name + 2⟩) := by
  rw [readWindow]
  split <;> simp_all

theorem readWindow_of_optional {inside after : List Char}
    (cut : Cut.first c rest = .optional inside after) :
    readWindow dictionary offset (c :: rest) =
      (Logged.emit (.foundOptional offset (offset + 1 + byteLength inside)) >>= fun _ =>
        readWindow dictionary (offset + 1) inside >>= fun within =>
          readWindow dictionary (offset + 1 + byteLength inside + 1) after >>= fun following =>
            pure (optional within following)) := by
  rw [readWindow]
  split <;> simp_all

theorem readWindow_of_unclosed {kind : FaultKind} (cut : Cut.first c rest = .unclosed kind) :
    readWindow dictionary offset (c :: rest) = Logged.fail (.unclosed kind offset) := by
  rw [readWindow]
  split <;> simp_all

end Cuts

/-- Reads a template, checking every placeholder name against the dictionary. -/
def read (dictionary : Dictionary) (source : String) : Logged Fault Template := do
  Logged.emit (.scanning source)
  readWindow dictionary 0 source.toList

end Stencil.Template
