import Stencil.Text.Floating
import Stencil.Text.Quoted
/-!
# Configuration values

The values of a configuration file: null, truth values, numbers, texts, sequences
and maps. A whole number that fits no word of 64 bits counts as floating point.
A map holds each name once. What a file means that gives a name twice is not
modelled, it has to be settled before there is a map.
-/
namespace Stencil

inductive Config where
  | null
  | boolean (value : Bool)
  | integer (value : Int)
  | floating (value : Text.Decimal)
  | text (value : String)
  | sequence (items : List Config)
  | map (entries : List (String × Config))
deriving Inhabited

namespace Config

/-- The least signed number of 64 bits. -/
def leastWord : Int := -9223372036854775808

/-- The number of unsigned words of 64 bits, one more than the greatest. -/
def wordLimit : Int := 18446744073709551616

/-- Whether a whole number fits a word of 64 bits, signed or unsigned. -/
def fitsWord (value : Int) : Bool :=
  leastWord ≤ value && value < wordLimit

/-- What a value is called where another kind of value is wanted. -/
def description : Config → String
  | null => "null"
  | boolean value => "boolean `" ++ (if value then "true" else "false") ++ "`"
  | integer value =>
    if fitsWord value then "integer `" ++ toString value ++ "`"
    else "floating point `" ++ (Text.Decimal.mk (value < 0) value.natAbs 0).floatingText ++ "`"
  | floating value => "floating point `" ++ value.floatingText ++ "`"
  | text value => "string " ++ Text.quoted value
  | sequence _ => "sequence"
  | map _ => "map"

end Config

end Stencil
