/-!
# Ranges of encoded characters

The encodings in UTF-8 of all characters from one code point to another are those byte
sequences that lie, byte by byte, in one of a few sequences of byte ranges. Of each byte
after the first only its lower six bits are given.
-/
namespace Stencil.Text

/-- The numbers from `low` to `high`, written with a leading digit and `count` further
digits to base 64, as sequences of digit ranges in ascending order. -/
def digitSequences : Nat → Nat → Nat → List (List (Nat × Nat))
  | 0, low, high => [[(low, high)]]
  | count + 1, low, high =>
    let unit := Nat.pow 64 (count + 1)
    let first := low / unit
    let last := high / unit
    if first = last then
      (digitSequences count (low % unit) (high % unit)).map ((first, first) :: ·)
    else
      let startsWhole := low % unit == 0
      let endsWhole := high % unit == unit - 1
      let start := if startsWhole then first else first + 1
      let stop := if endsWhole then last + 1 else last
      (if startsWhole then []
        else (digitSequences count (low % unit) (unit - 1)).map ((first, first) :: ·)) ++
      (if start < stop then [(start, stop - 1) :: List.replicate (count + 1) (0, 63)]
        else []) ++
      (if endsWhole then []
        else (digitSequences count 0 (high % unit)).map ((last, last) :: ·))

/-- The codes that take the same number of bytes: how many come after the first, the
codes themselves, and the bits that mark the first byte. -/
structure EncodingBand where
  count : Nat
  low : Nat
  high : Nat
  mark : Nat

def encodingBands : List EncodingBand :=
  [⟨0, 0x0, 0x7F, 0x0⟩, ⟨1, 0x80, 0x7FF, 0xC0⟩, ⟨2, 0x800, 0xD7FF, 0xE0⟩,
   ⟨2, 0xE000, 0xFFFF, 0xE0⟩, ⟨3, 0x10000, 0x10FFFF, 0xF0⟩]

/-- The byte ranges of the characters from `low` to `high`. -/
def byteSequences (low high : Nat) : List (List (Nat × Nat)) :=
  encodingBands.flatMap fun band =>
    let mark := band.mark * Nat.pow 64 band.count
    let low := max low band.low
    let high := min high band.high
    if low ≤ high then digitSequences band.count (mark + low) (mark + high) else []

end Stencil.Text
