import Stencil.Text.Length
/-!
# Templates

A template is literal text, placeholders and optional spans, read from left to
right. Placeholders and optional spans are its slots: each owns one capture group
of the expression, an optional span before the slots inside it.
-/
namespace Stencil

/-- A sequence of segments. Each constructor but the first puts one segment in
front of the rest. -/
inductive Template where
  | nil
  | literal (text : String) (rest : Template)
  | placeholder (name : String) (rest : Template)
  | optional (inside rest : Template)
deriving DecidableEq, Inhabited

namespace Template

def isEmpty : Template → Bool
  | nil => true
  | _ => false

/-- The number of capture groups that the slots own. -/
def groupCount : Template → Nat
  | nil => 0
  | literal _ rest => rest.groupCount
  | placeholder _ rest => 1 + rest.groupCount
  | optional inside rest => 1 + inside.groupCount + rest.groupCount

/-- The names of the placeholders in slot order, repetitions included. -/
def fieldNames : Template → List String
  | nil => []
  | literal _ rest => rest.fieldNames
  | placeholder name rest => name :: rest.fieldNames
  | optional inside rest => inside.fieldNames ++ rest.fieldNames

/-- The source text, a character at a time. -/
def characters : Template → List Char
  | nil => []
  | literal text rest => text.toList ++ rest.characters
  | placeholder name rest => '{' :: name.toList ++ '}' :: rest.characters
  | optional inside rest => '<' :: inside.characters ++ '>' :: rest.characters

/-- The source text that the template is read from. -/
def source (template : Template) : String :=
  String.ofList template.characters

/-- The segments one by one, each as a template of its own. -/
def segments : Template → List Template
  | nil => []
  | literal text rest => literal text nil :: rest.segments
  | placeholder name rest => placeholder name nil :: rest.segments
  | optional inside rest => optional inside nil :: rest.segments

/-- Puts literal text in front, joined to a literal that already stands there. -/
def prependLiteral (text : String) : Template → Template
  | literal more rest => literal (text ++ more) rest
  | template => literal text template

@[simp] theorem characters_prependLiteral (text : String) (template : Template) :
    (prependLiteral text template).characters = text.toList ++ template.characters := by
  cases template <;> simp [prependLiteral, characters]

end Template

end Stencil
