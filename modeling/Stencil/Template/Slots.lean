import Stencil.Log
import Stencil.Template.Basic
/-!
# Captures and slots

The captures of a match are dealt out to the slots of a template in order, one to
each placeholder and one to each optional span before the slots inside it. A span
that took no part still takes the captures of its slots, and gives them no value.
-/
namespace Stencil

/-- Captures that are being dealt out: how many have been, and those that are left. -/
structure Captures where
  drawn : Nat
  left : List (Option String)
deriving DecidableEq

namespace Captures

def ofList (captures : List (Option String)) : Captures :=
  ⟨0, captures⟩

end Captures

/-- There are fewer captures than slots. -/
structure CaptureShortage where
  expected : Nat
  found : Nat
deriving DecidableEq

/-- A placeholder met in slot order, with its value if it took part in the match. -/
structure Reading where
  name : String
  value : Option String
deriving DecidableEq

namespace Captures

/-- Draws the next capture of a template that has `expected` slots. -/
def draw (expected : Nat) (captures : Captures) :
    Logged CaptureShortage (Option String × Captures) :=
  match captures.left with
  | [] => Logged.fail ⟨expected, captures.drawn⟩
  | capture :: left => pure (capture, ⟨captures.drawn + 1, left⟩)

end Captures

namespace Template

/-- Deals out captures to the slots of a template or of a part of one. What lies inside
a span that took no part is not `present`, and neither are the spans inside it. -/
def deal (expected : Nat) (present : Bool) :
    Template → Captures → Logged CaptureShortage (List Reading × Captures)
  | nil, captures => pure ([], captures)
  | literal _ rest, captures => rest.deal expected present captures
  | placeholder name rest, captures => do
    let (capture, captures) ← captures.draw expected
    let (following, captures) ← rest.deal expected present captures
    pure (⟨name, if present then capture else none⟩ :: following, captures)
  | optional inside rest, captures => do
    let (capture, captures) ← captures.draw expected
    let tookPart := present && capture.isSome
    if !tookPart then
      Logged.emit (.skippedOptional (1 + inside.groupCount))
    let (within, captures) ← inside.deal expected tookPart captures
    let (following, captures) ← rest.deal expected present captures
    pure (within ++ following, captures)

/-- Reads the captures of a match. -/
def readCaptures (template : Template) (captures : List (Option String)) :
    Logged CaptureShortage (List Reading × Captures) :=
  template.deal template.groupCount true (.ofList captures)

end Template

end Stencil
