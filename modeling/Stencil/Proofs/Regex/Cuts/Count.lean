import Stencil.Proofs.Regex.Seams.Count
/-!
# Blanks and counts at a cut

A reader that stops at the latest where a certain closing parenthesis stands does not depend
on that parenthesis or on what is behind it: the text may as well end there, or go on in
another way behind a closing parenthesis.
-/
namespace Stencil.Regex

namespace Lexeme

/-- A text that is empty or begins with a closing parenthesis. -/
def Closing (more : List Char) : Prop :=
  ∀ c ∈ more.head?, c = ')'

theorem closing_nil : Closing [] := by
  intro c member
  cases member

theorem closing_cons (after : List Char) : Closing (')' :: after) := by
  intro c member
  exact (Option.some.inj member).symm

variable {text rest after more : List Char}

/-- What a text begins with is not the parenthesis, so it stands in front of that. -/
theorem Closing.eq_cons {c : Char} {front inside : List Char} (closing : Closing more)
    (other : c ≠ ')') (h : front ++ more = c :: inside) :
    ∃ front', front = c :: front' ∧ inside = front' ++ more := by
  cases front with
  | nil =>
    rw [List.nil_append] at h
    exact absurd (closing c (by rw [h]; rfl)) other
  | cons d front =>
    cases h
    exact ⟨front, rfl, rfl⟩

theorem Closing.eq_append {front inside : List Char} (closing : Closing more) (marks : List Char)
    (others : ')' ∉ marks) (h : front ++ more = marks ++ inside) :
    ∃ front', front = marks ++ front' ∧ inside = front' ++ more := by
  induction marks generalizing front with
  | nil => exact ⟨front, rfl, h.symm⟩
  | cons c marks ih =>
    rw [List.mem_cons, not_or] at others
    obtain ⟨other, others⟩ := others
    obtain ⟨front, rfl, later⟩ := closing.eq_cons (Ne.symm other) h
    obtain ⟨front, rfl, same⟩ := ih others later.symm
    exact ⟨front, rfl, same⟩

/-- Nothing behind a closing parenthesis has it in front of it once more. -/
theorem not_suffix_after : ¬rest ++ ')' :: after <:+ after := by
  intro late
  have := late.length_le
  simp only [List.length_append, List.length_cons] at this
  omega

/-- What leaves the same behind has taken the same. -/
theorem eq_of_left {α : Type} {found found' : α} {front behind : List Char}
    (h : (found, front ++ behind) = (found', rest ++ behind)) : found = found' ∧ front = rest := by
  obtain ⟨same, left⟩ := Prod.mk.inj h
  exact ⟨same, List.append_cancel_right left⟩

/-- What still ends with a text was cut from something that ends with it. -/
theorem exists_of_suffix {behind whole : List Char} (rest : List Char)
    (h : rest ++ behind <:+ whole) :
    ∃ front, whole = front ++ behind := by
  obtain ⟨front, same⟩ := (List.suffix_append rest behind).trans h
  exact ⟨front, same.symm⟩

theorem suffix_of_append {front behind : List Char} (rest : List Char)
    (h : rest ++ behind <:+ front ++ behind) :
    rest <:+ front := by
  obtain ⟨earlier, same⟩ := h
  rw [← List.append_assoc] at same
  exact ⟨earlier, List.append_cancel_right same⟩

/-! ## Blanks -/

private theorem isSpace_close : isSpace ')' = false := by decide

/-- A closing parenthesis is no blank outside of comments. -/
private theorem blank?_close {verbose inComment : Bool} :
    blank? verbose inComment ')' = if inComment then some true else none := by
  simp [blank?, isSpace_close]

private theorem skipBlanks_cut {inComment : Bool} (closing : Closing more)
    (h : skipBlanks inComment (text ++ ')' :: after) = rest ++ ')' :: after) :
    skipBlanks inComment (text ++ more) = rest ++ more := by
  induction text generalizing inComment with
  | nil =>
    cases inComment with
    | true =>
      have late := skipBlanks_suffix true after
      rw [show skipBlanks true after = _ from h] at late
      exact absurd late not_suffix_after
    | false =>
      obtain rfl : rest = [] := List.append_left_eq_self.mp (Eq.symm h)
      cases more with
      | nil => rfl
      | cons c more =>
        obtain rfl := closing c rfl
        rfl
  | cons c text ih =>
    rw [List.cons_append, skipBlanks_cons] at h ⊢
    cases blank : blank? true inComment c with
    | some next =>
      rw [blank] at h
      exact ih h
    | none =>
      rw [blank] at h
      obtain rfl : c :: text = rest := List.append_cancel_right h
      rfl

theorem trim_cut {verbose : Bool} (rest : List Char) (closing : Closing more)
    (h : trim verbose (text ++ ')' :: after) = rest ++ ')' :: after) :
    trim verbose (text ++ more) = rest ++ more := by
  cases verbose with
  | false =>
    obtain rfl : text = rest := List.append_cancel_right h
    rfl
  | true => exact skipBlanks_cut closing h

theorem dropWhile_cut {p : Char → Bool} (rest : List Char) (closing : Closing more)
    (h : (text ++ ')' :: after).dropWhile p = rest ++ ')' :: after) :
    (text ++ more).dropWhile p = rest ++ more ∧
      (text ++ more).takeWhile p = (text ++ ')' :: after).takeWhile p := by
  induction text with
  | nil =>
    rw [List.nil_append, List.dropWhile_cons] at h
    split at h
    · have late := List.dropWhile_suffix p (l := after)
      rw [h] at late
      exact absurd late not_suffix_after
    · rename_i stops
      obtain rfl : rest = [] := List.append_left_eq_self.mp h.symm
      cases more with
      | nil => simp [stops]
      | cons c more =>
        obtain rfl := closing c rfl
        simp [stops]
  | cons c text ih =>
    rw [List.cons_append, List.dropWhile_cons] at h
    split at h
    · rename_i passes
      simp [passes, ih h]
    · rename_i stops
      obtain rfl : c :: text = rest := List.append_cancel_right h
      simp [stops]

theorem takeSpelled_cut {verbose inComment : Bool} {test : Char → Bool} {taken : List Char}
    (rest : List Char) (closing : Closing more)
    (h : takeSpelled verbose test inComment (text ++ ')' :: after) = (taken, rest ++ ')' :: after)) :
    takeSpelled verbose test inComment (text ++ more) = (taken, rest ++ more) := by
  have behind (inComment : Bool) : (takeSpelled verbose test inComment after).2 ≠
      rest ++ ')' :: after := by
    intro same
    have late := takeSpelled_suffix verbose test inComment after
    rw [same] at late
    exact not_suffix_after late
  induction text generalizing inComment taken with
  | nil =>
    rw [List.nil_append, takeSpelled_cons, blank?_close] at h
    cases inComment with
    | true => exact absurd (congrArg Prod.snd h) (behind _)
    | false =>
      change (if test ')' then _ else _) = _ at h
      split at h
      · exact absurd (congrArg Prod.snd h) (behind _)
      · rename_i stops
        obtain ⟨rfl, same⟩ := Prod.mk.inj h
        obtain rfl : rest = [] := List.append_left_eq_self.mp same.symm
        cases more with
        | nil => rfl
        | cons c more =>
          obtain rfl := closing c rfl
          rw [List.nil_append, takeSpelled_cons, blank?_close]
          exact if_neg stops
  | cons c text ih =>
    rw [List.cons_append, takeSpelled_cons] at h ⊢
    cases blank : blank? verbose inComment c with
    | some next =>
      rw [blank] at h
      exact ih h
    | none =>
      rw [blank] at h
      dsimp only at h ⊢
      split at h
      · rename_i passes
        obtain ⟨rfl, left⟩ := Prod.mk.inj h
        rw [if_pos passes, ih (Prod.ext rfl left)]
      · rename_i fails
        rw [if_neg fails]
        obtain ⟨rfl, rfl⟩ : _ ∧ c :: text = rest := eq_of_left h
        rfl

/-! ## Counts -/

theorem readNumber_cut {verbose : Bool} {value : Nat} (rest : List Char) (closing : Closing more)
    (h : readNumber verbose (text ++ ')' :: after) = .ok (value, rest ++ ')' :: after)) :
    text ≠ [] ∧ readNumber verbose (text ++ more) = .ok (value, rest ++ more) := by
  have some : text ≠ [] := by
    intro nothing
    subst nothing
    simp [readNumber, isSpace_close, takeSpelled] at h
  refine ⟨some, ?_⟩
  unfold readNumber at h ⊢
  cases taken : takeSpelled verbose Char.isDigit false
      ((text ++ ')' :: after).dropWhile isSpace) with
  | mk digits behind =>
    rw [taken] at h
    dsimp only at h
    split at h
    · cases h
    · rename_i valid
      obtain ⟨rfl, left⟩ := Prod.mk.inj (Except.ok.inj h)
      have whole : rest ++ ')' :: after <:+ behind := left ▸ List.dropWhile_suffix _
      obtain ⟨middle, rfl⟩ := exists_of_suffix _ whole
      have late : middle ++ ')' :: after <:+ (text ++ ')' :: after).dropWhile isSpace := by
        have late := takeSpelled_suffix verbose Char.isDigit false
          ((text ++ ')' :: after).dropWhile isSpace)
        rwa [taken] at late
      obtain ⟨front, same⟩ := exists_of_suffix _ late
      rw [same] at taken
      rw [(dropWhile_cut _ closing same).1, takeSpelled_cut _ closing taken]
      dsimp only
      rw [if_neg valid, (dropWhile_cut _ closing left).1]

theorem readBounds_cut {verbose : Bool} {bounds : Bounds} (closing : Closing more)
    (h : readBounds verbose (text ++ ')' :: after) = .ok (bounds, rest ++ ')' :: after)) :
    (∃ front, front ≠ [] ∧ trim verbose (text ++ ')' :: after) = front ++ ')' :: after) ∧
      readBounds verbose (text ++ more) = .ok (bounds, rest ++ more) := by
  have cut {text : List Char} {value : Nat} (left : List Char) (number : readNumber verbose
        (trim verbose (text ++ ')' :: after)) = .ok (value, left ++ ')' :: after)) :
      (∃ front, front ≠ [] ∧ trim verbose (text ++ ')' :: after) = front ++ ')' :: after) ∧
        readNumber verbose (trim verbose (text ++ more)) = .ok (value, left ++ more) := by
    obtain ⟨front, blanks⟩ := exists_of_suffix _ (readNumber_suffix number)
    rw [blanks] at number
    obtain ⟨some, number'⟩ := readNumber_cut _ closing number
    rw [trim_cut _ closing blanks]
    exact ⟨⟨front, some, blanks⟩, number'⟩
  rw [readBounds_eq_ok_iff] at h ⊢
  cases h with
  | exactly number =>
    have first := cut ('\x7d' :: rest) number
    exact ⟨first.1, .exactly first.2⟩
  | @atLeast least upper rest number closes =>
    have late := (List.suffix_cons _ _).trans (closes ▸ trim_suffix verbose upper)
    obtain ⟨front, rfl⟩ := exists_of_suffix _ late
    have first := cut (',' :: front) number
    exact ⟨first.1, .atLeast first.2 (trim_cut ('\x7d' :: rest) closing closes)⟩
  | @between least most upper rest number number' ordered =>
    have late := ((List.suffix_cons _ _).trans (readNumber_suffix number')).trans
      (trim_suffix verbose upper)
    obtain ⟨front, rfl⟩ := exists_of_suffix _ late
    have first := cut (',' :: front) number
    have second := cut ('\x7d' :: rest) number'
    exact ⟨first.1, .between first.2 second.2 ordered⟩

theorem quantify_cut {bounds : Bounds} {lexeme : Lexeme} (closing : Closing more)
    (h : quantify bounds (text ++ ')' :: after) = (lexeme, rest ++ ')' :: after)) :
    quantify bounds (text ++ more) = (lexeme, rest ++ more) := by
  cases text with
  | nil =>
    obtain ⟨rfl, same⟩ := Prod.mk.inj h
    obtain rfl : rest = [] := List.append_left_eq_self.mp same.symm
    cases more with
    | nil => rfl
    | cons c more =>
      obtain rfl := closing c rfl
      rfl
  | cons c text =>
    by_cases mark : c = '?'
    · subst mark
      obtain ⟨rfl, rfl⟩ := eq_of_left h
      rfl
    · have plain (text : List Char) : quantify bounds (c :: text) = (.quantifier bounds true, c :: text) :=
        quantify.eq_2 _ _ fun rest same => mark (List.cons.inj same).1
      rw [List.cons_append, plain] at h
      obtain ⟨rfl, rfl⟩ : _ ∧ c :: text = rest := eq_of_left h
      exact plain _

theorem readCount_cut {verbose : Bool} {lexeme : Lexeme} (closing : Closing more)
    (h : readCount verbose (text ++ ')' :: after) = .ok (lexeme, rest ++ ')' :: after)) :
    (∃ front, front ≠ [] ∧ trim verbose (text ++ ')' :: after) = front ++ ')' :: after) ∧
      readCount verbose (text ++ more) = .ok (lexeme, rest ++ more) := by
  obtain ⟨⟨bounds, left⟩, read, same⟩ := map_eq_ok h
  dsimp only at same
  have late := quantify_suffix bounds (trim verbose left)
  rw [same] at late
  obtain ⟨middle, blanks⟩ := exists_of_suffix _ late
  have behind := trim_suffix verbose left
  rw [blanks] at behind same
  obtain ⟨front, rfl⟩ := exists_of_suffix _ behind
  obtain ⟨some, read'⟩ := readBounds_cut closing read
  refine ⟨some, ?_⟩
  rw [readCount, read']
  change Except.ok (quantify bounds (trim verbose (front ++ more))) = _
  rw [trim_cut _ closing blanks, quantify_cut closing same]

end Lexeme

end Stencil.Regex
