import Stencil.Regex.Program
import Stencil.Template.Expression
import Stencil.Template.Fault
import Stencil.Template.Slots
/-!
# Failures

Why a template does not compile, or why an input gives no fields.
-/
namespace Stencil

inductive Failure where
  | template (fault : Template.Fault)
  | missingFragment (name : String)
  | expression (fault : Regex.Fault)
  | noMatch
  | captureShortage (shortage : CaptureShortage)
deriving DecidableEq

namespace Failure

def message : Failure → String
  | template fault => fault.message
  | missingFragment name => "no partial registered for placeholder `" ++ name ++ "`"
  | expression fault => "invalid compiled expression: " ++ fault.message
  | noMatch => "input does not match the pattern"
  | captureShortage shortage =>
    "capture group mismatch: template needs " ++ toString shortage.expected ++
      " groups, match produced " ++ toString shortage.found

def isNoMatch : Failure → Bool
  | noMatch => true
  | _ => false

/-- What is wrong with the template itself, if that is the failure. -/
def templateFault? : Failure → Option Template.FaultKind
  | template fault => some fault.kind
  | _ => none

end Failure

end Stencil
