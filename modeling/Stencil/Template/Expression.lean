import Stencil.Dictionary
import Stencil.Options.Basic
import Stencil.Template.Basic
/-!
# The expression of a template

Each placeholder stands for its fragment, each optional span becomes a group that
matches once or not at all, and literal text stands for itself, with a backslash
before each character that has a meaning if it is to be escaped.
-/
namespace Stencil

/-- A placeholder whose name has no fragment. -/
structure MissingFragment where
  name : String
deriving DecidableEq

/-- The characters that have a meaning of their own in an expression. -/
def expressionMarks : List Char :=
  ['\\', '.', '+', '*', '?', '(', ')', '|', '[', ']', '\x7b', '\x7d', '^', '$', '#', '&', '-', '~']

/-- An expression that matches the text and nothing else. -/
def escape (text : List Char) : List Char :=
  text.flatMap fun c => if expressionMarks.contains c then ['\\', c] else [c]

@[simp] theorem escape_nil : escape [] = [] := rfl

@[simp] theorem escape_append (first second : List Char) :
    escape (first ++ second) = escape first ++ escape second := by
  simp [escape]

namespace Template

/-- The text that stands for a literal. -/
def literalExpression (options : Options) (text : String) : List Char :=
  if options.escapeLiterals then escape text.toList else text.toList

/-- The expression without its anchors. Of several missing fragments the first in slot
order is reported. -/
def body (dictionary : Dictionary) (options : Options) :
    Template → Except MissingFragment (List Char)
  | nil => .ok []
  | literal text rest => do
    let following ← rest.body dictionary options
    .ok (literalExpression options text ++ following)
  | placeholder name rest =>
    match dictionary.fragment name with
    | none => .error ⟨name⟩
    | some fragment => do
      let following ← rest.body dictionary options
      .ok (fragment.toList ++ following)
  | optional inside rest => do
    let within ← inside.body dictionary options
    let following ← rest.body dictionary options
    .ok ('(' :: within ++ ')' :: '?' :: following)

/-- An expression that has to match from the start of the input to its end. -/
def anchor (expression : List Char) : List Char :=
  "^(?:".toList ++ expression ++ ")$".toList

/-- The expression of a template. -/
def expression (template : Template) (dictionary : Dictionary) (options : Options) :
    Except MissingFragment String := do
  let body ← template.body dictionary options
  .ok (String.ofList (if options.anchored then anchor body else body))

end Template

end Stencil
