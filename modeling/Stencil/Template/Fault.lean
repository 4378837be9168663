/-!
# Faults in a template

A fault names what is wrong and the bytes of the template it is about. It can be
told in one line or as a diagnostic that points into a source file.
-/
namespace Stencil

/-- The bytes from `start` up to but not including `stop`. -/
structure ByteSpan where
  start : Nat
  stop : Nat
deriving DecidableEq

namespace ByteSpan

/-- The same span in a text that has `offset` more bytes in front. -/
def shift (offset : Nat) (span : ByteSpan) : ByteSpan :=
  ⟨span.start + offset, span.stop + offset⟩

end ByteSpan

namespace Template

/-- What can be wrong with a template. -/
inductive FaultKind where
  | unclosedPlaceholder
  | unclosedOptional
  | unknownPlaceholder (name : String)
deriving DecidableEq

structure Fault where
  kind : FaultKind
  span : ByteSpan
deriving DecidableEq

namespace FaultKind

def message : FaultKind → String
  | unclosedPlaceholder => "unclosed placeholder: `\x7b` has no matching `\x7d`"
  | unclosedOptional => "unclosed optional span: `<` has no matching `>`"
  | unknownPlaceholder name => "unknown placeholder `" ++ name ++ "`"

/-- What is said at the marked bytes. -/
def label : FaultKind → String
  | unclosedPlaceholder => "placeholder opened here"
  | unclosedOptional => "optional span opened here"
  | unknownPlaceholder _ => "not found in partials"

/-- How to mend it. -/
def advice : FaultKind → String
  | unclosedPlaceholder => "close the placeholder with `\x7d` before any `\x7b`, `<` or `>`"
  | unclosedOptional => "every `<` needs a matching `>` at the same nesting level"
  | unknownPlaceholder name =>
    "register a fragment for `" ++ name ++ "` in the partials dictionary"

end FaultKind

/-- A marked stretch of a source file. -/
structure Label where
  file : Nat
  span : ByteSpan
  message : String
deriving DecidableEq

/-- An error report about a source file: a headline, one marked stretch and notes. -/
structure Diagnostic where
  message : String
  label : Label
  notes : List String
deriving DecidableEq

namespace Fault

/-- The opening delimiter at byte `start` is never closed. -/
def unclosed (kind : FaultKind) (start : Nat) : Fault :=
  ⟨kind, start, start + 1⟩

def unclosedPlaceholder (start : Nat) : Fault :=
  unclosed .unclosedPlaceholder start

def unclosedOptional (start : Nat) : Fault :=
  unclosed .unclosedOptional start

def unknownPlaceholder (name : String) (span : ByteSpan) : Fault :=
  ⟨.unknownPlaceholder name, span⟩

def message (fault : Fault) : String :=
  fault.kind.message ++ " (at byte " ++ toString fault.span.start ++ ")"

def diagnostic (fault : Fault) (file : Nat) : Diagnostic where
  message := fault.kind.message
  label := ⟨file, fault.span, fault.kind.label⟩
  notes := [fault.kind.advice]

/-- The same fault in a text that has `offset` more bytes in front. -/
def shift (offset : Nat) (fault : Fault) : Fault :=
  ⟨fault.kind, fault.span.shift offset⟩

end Fault

end Template

end Stencil
