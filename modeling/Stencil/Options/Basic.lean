/-!
# Options

Four options decide how a template becomes an expression. All are off by default:
the expression is searched for anywhere, letters keep their case, literal text is
expression source, and the size of the expression has the engine's own limit.
-/
namespace Stencil

structure Options where
  /-- The template has to match the whole input. -/
  anchored : Bool := false
  /-- Letters match without regard to case. -/
  caseInsensitive : Bool := false
  /-- Literal text matches itself instead of being expression source. -/
  escapeLiterals : Bool := false
  /-- The greatest size of the compiled expression, in bytes. -/
  sizeLimit : Option Nat := none
deriving DecidableEq, Inhabited

/-- One option with the value to give it. -/
inductive Setting where
  | anchored (value : Bool)
  | caseInsensitive (value : Bool)
  | escapeLiterals (value : Bool)
  | sizeLimit (bytes : Nat)
deriving DecidableEq

namespace Options

/-- Gives one option a value and leaves the others as they are. -/
def set (options : Options) : Setting → Options
  | .anchored value => { options with anchored := value }
  | .caseInsensitive value => { options with caseInsensitive := value }
  | .escapeLiterals value => { options with escapeLiterals := value }
  | .sizeLimit bytes => { options with sizeLimit := some bytes }

/-- The default options after a sequence of settings. -/
def ofSettings (settings : List Setting) : Options :=
  settings.foldl set {}

end Options

end Stencil
