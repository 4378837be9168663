import Stencil.Regex.Lexeme.Basic
/-!
# Repetition counts

A count in braces is a quantifier: an exact number of rounds, or the least and perhaps
the greatest number. A question mark after a quantifier makes it take little.
-/
namespace Stencil.Regex.Lexeme

/-- Repetition counts are words of 32 bits. -/
def countLimit : Nat := 4294967296

/-- Reads a number in decimal digits that fits 32 bits, with white space around it. -/
def readNumber (verbose : Bool) (text : List Char) : Except SyntaxFault (Nat × List Char) :=
  let (digits, rest) := takeSpelled verbose Char.isDigit false (text.dropWhile isSpace)
  let value := digits.foldl (fun value digit => 10 * value + (digit.toNat - '0'.toNat)) 0
  if digits.isEmpty || countLimit ≤ value then .error .malformedCount
  else .ok (value, rest.dropWhile isSpace)

/-- Reads the bounds between braces, `n`, `n,` or `n,m`, and the closing brace. -/
def readBounds (verbose : Bool) (text : List Char) : Except SyntaxFault (Bounds × List Char) := do
  let (least, rest) ← readNumber verbose (trim verbose text)
  match rest with
  | '\x7d' :: rest => .ok (⟨least, some least⟩, rest)
  | ',' :: rest =>
    match trim verbose rest with
    | '\x7d' :: rest => .ok (⟨least, none⟩, rest)
    | upper =>
      let (most, rest) ← readNumber verbose upper
      match rest with
      | '\x7d' :: rest =>
        if least ≤ most then .ok (⟨least, some most⟩, rest) else .error (.reversedCount least most)
      | _ => .error .unclosedCount
  | _ => .error .unclosedCount

/-- The quantifier of some bounds, with the mark after it. -/
def quantify (bounds : Bounds) : List Char → Lexeme × List Char
  | '?' :: rest => (.quantifier bounds false, rest)
  | rest => (.quantifier bounds true, rest)

/-- Reads what follows an opening brace. -/
def readCount (verbose : Bool) (text : List Char) : Except SyntaxFault (Lexeme × List Char) :=
  (readBounds verbose text).map fun (bounds, rest) => quantify bounds (trim verbose rest)

theorem readNumber_suffix {verbose : Bool} {text rest : List Char} {value : Nat}
    (h : readNumber verbose text = .ok (value, rest)) : rest <:+ text := by
  unfold readNumber at h
  dsimp only at h
  split at h
  · cases h
  · cases h
    exact ((List.dropWhile_suffix _).trans (takeSpelled_suffix ..)).trans
      (List.dropWhile_suffix _)

theorem readBounds_suffix {verbose : Bool} {text rest : List Char} {bounds : Bounds}
    (h : readBounds verbose text = .ok (bounds, rest)) : rest <:+ text := by
  obtain ⟨⟨least, after⟩, read, h⟩ := bind_eq_ok h
  have outer := (readNumber_suffix read).trans (trim_suffix verbose text)
  dsimp only at h
  split at h
  · cases h
    exact (List.suffix_cons _ _).trans outer
  · rename_i tail
    have inner := (trim_suffix verbose tail).trans ((List.suffix_cons _ _).trans outer)
    split at h
    · rename_i front
      rw [front] at inner
      cases h
      exact (List.suffix_cons _ _).trans inner
    · obtain ⟨⟨most, behind⟩, more, h⟩ := bind_eq_ok h
      have last := (readNumber_suffix more).trans inner
      dsimp only at h
      split at h
      · split at h
        · cases h
          exact (List.suffix_cons _ _).trans last
        · cases h
      · cases h
  · cases h

theorem quantify_suffix (bounds : Bounds) (text : List Char) :
    (quantify bounds text).2 <:+ text := by
  unfold quantify
  split
  · exact List.suffix_cons _ _
  · exact List.suffix_refl _

theorem readCount_suffix {verbose : Bool} {text rest : List Char} {found : Lexeme}
    (h : readCount verbose text = .ok (found, rest)) : rest <:+ text := by
  obtain ⟨⟨bounds, after⟩, read, same⟩ := map_eq_ok h
  have mark := quantify_suffix bounds (trim verbose after)
  dsimp only at same
  rw [same] at mark
  exact (mark.trans (trim_suffix verbose after)).trans (readBounds_suffix read)

end Stencil.Regex.Lexeme
