import Stencil.Regex.CharClass
import Stencil.Text.Hexadecimal
/-!
# Tables of characters

A table lists code points in hexadecimal, single ones and ranges, with white space
between them: `30-39 5F`.
-/
namespace Stencil.Regex.CharClass

/-- The code point or the range that is written in one row of a table. -/
def rangeOfRow (row : List Char) : Nat × Nat :=
  let isHyphen (c : Char) : Bool := c == '-'
  let low := Text.hexValue (row.takeWhile (!isHyphen ·))
  match row.dropWhile (!isHyphen ·) with
  | [] => (low, low)
  | _ :: high => (low, Text.hexValue high)

/-- The class that a table lists. -/
def ofTable (table : String) : CharClass :=
  .ofRanges ((table.toList.splitOnP Char.isWhitespace).filterMap fun row =>
    if row.isEmpty then none else some (rangeOfRow row))

end Stencil.Regex.CharClass
