import Std.Data.TreeMap
import Stencil.Template.Slots
/-!
# Fields

The fields of a template are its placeholders by name. They come in two views: only
the fields that took part in a match, where the last of several values counts, or
every field, where one that took no part has no value and the first value counts.
-/
namespace Stencil

abbrev Fields (α : Type) := Std.TreeMap String α compare

namespace Fields

/-- A value takes the place of an earlier one. -/
def putValue (fields : Fields String) (reading : Reading) : Fields String :=
  match reading.value with
  | some value => fields.insert reading.name value
  | none => fields

def ofReadings (readings : List Reading) : Fields String :=
  readings.foldl putValue ∅

/-- A value that is there already stays. -/
def putField (fields : Fields (Option String)) (reading : Reading) : Fields (Option String) :=
  match fields[reading.name]? with
  | some (some _) => fields
  | _ => fields.insert reading.name reading.value

def allOfReadings (readings : List Reading) : Fields (Option String) :=
  readings.foldl putField ∅

end Fields

namespace Template

/-- The fields that took part in a match. -/
def extract (template : Template) (captures : List (Option String)) :
    Logged CaptureShortage (Fields String) := do
  let (readings, _) ← template.readCaptures captures
  pure (Fields.ofReadings readings)

/-- Every field, without a value where it took no part. -/
def extractAll (template : Template) (captures : List (Option String)) :
    Logged CaptureShortage (Fields (Option String)) := do
  let (readings, _) ← template.readCaptures captures
  pure (Fields.allOfReadings readings)

end Template

end Stencil
