import Stencil.Regex.Lexeme.Stream
/-!
# Building a pattern

Lexemes build a pattern one after another. What is open is kept as the content of the
innermost group and that of every group around it, so a stretch of text that opens
and closes its own groups builds the same items wherever it stands.
-/
namespace Stencil.Regex

/-- What a group means once it is closed. -/
inductive GroupKind where
  | capture
  | plain (change : FlagChange)
deriving DecidableEq

namespace GroupKind

def wrap : GroupKind → Pattern → Pattern
  | capture, inside => .capture inside
  | plain change, inside => .group change inside

end GroupKind

/-- The content of an open group: the branches that are complete and the items of the
branch that is being read, the latest first in each. -/
structure Content where
  branches : List Pattern := []
  items : List Pattern := []
deriving DecidableEq

namespace Content

/-- The branch that is being read. -/
def branch (content : Content) : Pattern :=
  .ofItems content.items

def toPattern (content : Content) : Pattern :=
  .ofBranches (content.branch :: content.branches)

def push (content : Content) (item : Pattern) : Content :=
  { content with items := item :: content.items }

/-- Completes a branch and starts the next. -/
def nextBranch (content : Content) : Content :=
  { branches := content.branch :: content.branches }

/-- Repeats the latest item. A branch that holds none yet, or whose latest lexeme only
switches flags, has nothing to repeat. -/
def repeatLast (content : Content) (bounds : Bounds) (greedy : Bool) :
    Except SyntaxFault Content :=
  match content.items with
  | [] | .flags _ :: _ => .error .nothingToRepeat
  | item :: earlier => .ok { content with items := .repetition bounds greedy item :: earlier }

theorem repeatLast_eq_ok_iff {content content' : Content} {bounds : Bounds} {greedy : Bool} :
    content.repeatLast bounds greedy = .ok content' ↔
      ∃ item earlier, content.items = item :: earlier ∧ (∀ change, item ≠ .flags change) ∧
        { content with items := .repetition bounds greedy item :: earlier } = content' := by
  constructor
  · intro h
    unfold repeatLast at h
    split at h
    · cases h
    · cases h
    · rename_i item earlier other same
      exact ⟨item, earlier, same, other, Except.ok.inj h⟩
  · rintro ⟨item, earlier, same, other, rfl⟩
    cases item with
    | flags change => exact absurd rfl (other change)
    | _ => simp [repeatLast, same]

end Content

/-- A pattern that is being built: the innermost group's content, the groups around it
from the inside out, and the group names so far. -/
structure Builder where
  content : Content := {}
  enclosing : List (GroupKind × Content) := []
  names : List String := []
deriving DecidableEq

namespace Builder

def openGroup (builder : Builder) (kind : GroupKind) : Builder :=
  { builder with content := {}, enclosing := (kind, builder.content) :: builder.enclosing }

def openNamed (builder : Builder) (name : String) : Except SyntaxFault Builder :=
  if builder.names.contains name then .error (.repeatedGroupName name)
  else .ok { builder.openGroup .capture with names := name :: builder.names }

def close (builder : Builder) : Except SyntaxFault Builder :=
  match builder.enclosing with
  | [] => .error .unopenedGroup
  | (kind, outer) :: enclosing =>
    .ok { builder with
      content := outer.push (kind.wrap builder.content.toPattern), enclosing }

def withContent (builder : Builder) (content : Content) : Builder :=
  { builder with content }

def step (builder : Builder) : Lexeme → Except SyntaxFault Builder
  | .atom atom => .ok (builder.withContent (builder.content.push (.atom atom)))
  | .flags change => .ok (builder.withContent (builder.content.push (.flags change)))
  | .openCapture none => .ok (builder.openGroup .capture)
  | .openCapture (some name) => builder.openNamed name
  | .openGroup change => .ok (builder.openGroup (.plain change))
  | .close => builder.close
  | .bar => .ok (builder.withContent builder.content.nextBranch)
  | .quantifier bounds greedy =>
    (builder.content.repeatLast bounds greedy).map builder.withContent

/-- The pattern that was built, if every group is closed. -/
def finish (builder : Builder) : Except SyntaxFault Pattern :=
  if builder.enclosing.isEmpty then .ok builder.content.toPattern else .error .unclosedGroup

variable {builder builder' : Builder}

theorem step_named_iff {name : String} : builder.step (.openCapture (some name)) = .ok builder' ↔
    name ∉ builder.names ∧
      { builder.openGroup .capture with names := name :: builder.names } = builder' := by
  change builder.openNamed name = _ ↔ _
  by_cases taken : name ∈ builder.names <;> simp [openNamed, taken]

theorem step_quantifier_iff {bounds : Bounds} {greedy : Bool} :
    builder.step (.quantifier bounds greedy) = .ok builder' ↔
      ∃ content, builder.content.repeatLast bounds greedy = .ok content ∧
        builder.withContent content = builder' := by
  change (builder.content.repeatLast bounds greedy).map _ = _ ↔ _
  cases builder.content.repeatLast bounds greedy <;> simp [Except.map]

theorem step_close_iff : builder.step .close = .ok builder' ↔
    ∃ kind outer enclosing, builder.enclosing = (kind, outer) :: enclosing ∧
      { builder with content := outer.push (kind.wrap builder.content.toPattern), enclosing } =
        builder' := by
  change builder.close = _ ↔ _
  constructor
  · intro h
    unfold close at h
    split at h
    · cases h
    · rename_i kind outer enclosing around
      exact ⟨kind, outer, enclosing, around, Except.ok.inj h⟩
  · rintro ⟨kind, outer, enclosing, around, rfl⟩
    simp [close, around]

/-- What every lexeme keeps is kept by all of them. -/
theorem foldlM_keeps {Holds : Builder → Prop}
    (kept : ∀ {builder builder' : Builder} {lexeme : Lexeme},
      builder.step lexeme = .ok builder' → Holds builder → Holds builder')
    {lexemes : List Lexeme} (h : lexemes.foldlM step builder = .ok builder')
    (start : Holds builder) : Holds builder' := by
  induction lexemes generalizing builder with
  | nil =>
    cases h
    exact start
  | cons lexeme following ih =>
    rw [List.foldlM_cons] at h
    obtain ⟨next, first, h⟩ := bind_eq_ok h
    exact ih h (kept first start)

end Builder

namespace Pattern

/-- The greatest number of nested levels. -/
def depthLimit : Nat := 250

def ofLexemes (lexemes : List Lexeme) : Except SyntaxFault Pattern := do
  let builder ← lexemes.foldlM Builder.step {}
  let pattern ← builder.finish
  if pattern.depth ≤ depthLimit then .ok pattern else .error .tooDeep

/-- Reads an expression. -/
def read (text : List Char) : Except SyntaxFault Pattern := do
  ofLexemes (← Lexeme.readAll {} text)

end Pattern

end Stencil.Regex
