/-!
# Text lengths

Offsets and lengths count the bytes of the UTF-8 encoding, from one byte for a
delimiter to four for a character outside the basic plane.
-/
namespace Stencil.Text

/-- The number of bytes that a text takes in UTF-8. -/
def byteLength : List Char → Nat
  | [] => 0
  | c :: rest => c.utf8Size + byteLength rest

@[simp] theorem byteLength_nil : byteLength [] = 0 := rfl

@[simp] theorem byteLength_cons (c : Char) (text : List Char) :
    byteLength (c :: text) = c.utf8Size + byteLength text := rfl

@[simp] theorem byteLength_append (first second : List Char) :
    byteLength (first ++ second) = byteLength first + byteLength second := by
  induction first with
  | nil => simp
  | cons c rest ih => simp [ih, Nat.add_assoc]

@[simp] theorem utf8Size_delimiters :
    '{'.utf8Size = 1 ∧ '}'.utf8Size = 1 ∧ '<'.utf8Size = 1 ∧ '>'.utf8Size = 1 := by decide

end Stencil.Text
