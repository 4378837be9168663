import Stencil.Failure
import Stencil.Template.Fields
import Stencil.Template.Read
/-!
# Compiled templates

Compiling reads a template, writes its expression and compiles that, once for any
number of inputs. Parsing an input finds the first match of the expression and reads
its captures as fields.
-/
namespace Stencil

structure Compiled where
  template : Template
  expression : String
  program : Regex.Program
  options : Options

namespace Compiled

/-- Compiles a template. If fragments bring more or fewer groups than one each, the
captures do not fit the slots one to one, and that is logged. -/
def compile (pattern : String) (dictionary : Dictionary) (options : Options) :
    Logged Failure Compiled := do
  Logged.emit (.compiling pattern)
  let template ← (Template.read dictionary pattern).mapFault .template
  let expression ← Logged.quiet
    ((template.expression dictionary options).mapError fun missing => .missingFragment missing.name)
  let program ← Logged.quiet
    ((Regex.Program.compile expression.toList options.caseInsensitive options.sizeLimit).mapError
      .expression)
  Logged.emit (.compiled expression template.groupCount)
  if program.groupCount ≠ template.groupCount then
    Logged.emit (.groupsDiffer template.groupCount program.groupCount)
  pure { template, expression, program, options }

/-- The captures of the first match in an input. -/
def captures? (compiled : Compiled) (input : String) : Option (List (Option String)) :=
  (compiled.program.captures? input.toList).map fun captures =>
    captures.map fun capture => capture.map String.ofList

def captures (compiled : Compiled) (input : String) : Logged Failure (List (Option String)) :=
  match compiled.captures? input with
  | some captures => pure captures
  | none => Logged.fail .noMatch

/-- The fields of an input that took part in its match. -/
def parse (compiled : Compiled) (input : String) : Logged Failure (Fields String) := do
  Logged.emit (.parsing input.utf8ByteSize)
  let captures ← compiled.captures input
  let fields ← (compiled.template.extract captures).mapFault .captureShortage
  Logged.emit (.extracted fields.size)
  pure fields

/-- Every field of an input, without a value where it took no part in the match. -/
def parseAll (compiled : Compiled) (input : String) :
    Logged Failure (Fields (Option String)) := do
  let captures ← compiled.captures input
  (compiled.template.extractAll captures).mapFault .captureShortage

end Compiled

end Stencil
