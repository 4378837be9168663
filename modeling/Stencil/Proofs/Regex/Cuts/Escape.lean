import Stencil.Proofs.Regex.Cuts.Count
import Stencil.Regex.Lexeme.Escape
/-!
# Escapes at a cut

An escape does not depend on a closing parenthesis behind it. Only a word edge looks
further: for the letter that would begin a name in braces.
-/
namespace Stencil.Regex

namespace Lexeme

variable {text rest after more : List Char}

theorem readHexDigits_cut {verbose : Bool} {count : Nat} {digits : List Char}
    (closing : Closing more)
    (h : readHexDigits verbose count (text ++ ')' :: after) = .ok (digits, rest ++ ')' :: after)) :
    readHexDigits verbose count (text ++ more) = .ok (digits, rest ++ more) := by
  induction count generalizing text digits with
  | zero =>
    obtain ⟨rfl, rfl⟩ := eq_of_left (Except.ok.inj h)
    rfl
  | succ count ih =>
    cases text with
    | nil => cases h
    | cons c text =>
      rw [List.cons_append, readHexDigits] at h ⊢
      split at h
      · rename_i digit
        rw [if_pos digit]
        obtain ⟨⟨front, left⟩, read, same⟩ := map_eq_ok h
        cases same
        obtain ⟨middle, blanks⟩ := exists_of_suffix _ (readHexDigits_suffix read)
        rw [blanks] at read
        rw [trim_cut _ closing blanks, ih read]
        rfl
      · cases h

theorem readCode_cut {verbose : Bool} {count : Nat} {ofDigits : Char → Atom} {found : Atom}
    (closing : Closing more)
    (h : readCode verbose count ofDigits (text ++ ')' :: after) =
      .ok (found, rest ++ ')' :: after)) :
    readCode verbose count ofDigits (text ++ more) = .ok (found, rest ++ more) := by
  unfold readCode at h
  split at h
  · rename_i inside brace
    split at h
    · cases h
    · rename_i digits c left taken
      split at h
      · cases h
      · rename_i valid
        obtain ⟨code, number, same⟩ := map_eq_ok h
        obtain ⟨rfl, blanks⟩ := Prod.mk.inj same
        have late := trim_suffix verbose left
        rw [blanks] at late
        obtain ⟨middle, rfl⟩ := exists_of_suffix _ late
        obtain ⟨tail, rfl⟩ : ∃ tail, inside = tail ++ ')' :: after := by
          have behind := takeSpelled_suffix verbose (· != '\x7d') false inside
          rw [taken] at behind
          exact exists_of_suffix _ ((List.suffix_cons _ _).trans behind)
        unfold readCode
        rw [trim_cut ('\x7b' :: tail) closing brace]
        simp only [List.cons_append, takeSpelled_cut (c :: middle) closing taken]
        rw [if_neg valid, number, trim_cut _ closing blanks]
        rfl
  · rename_i unbraced
    obtain ⟨⟨digits, left⟩, read, h⟩ := bind_eq_ok h
    obtain ⟨code, number, same⟩ := map_eq_ok h
    cases same
    obtain ⟨middle, blanks⟩ := exists_of_suffix _ (readHexDigits_suffix read)
    rw [blanks] at read unbraced
    unfold readCode
    rw [trim_cut _ closing blanks]
    split
    · rename_i same
      obtain ⟨front, rfl, _⟩ := closing.eq_cons (by decide) same
      exact absurd rfl (unbraced _)
    · rw [readHexDigits_cut closing read]
      change (characterOf digits).map _ = _
      rw [number]
      rfl

/-- What is spelled at the front of a verbose text begins behind its blanks. -/
theorem takeSpelled_suffix_trim (verbose : Bool) (test : Char → Bool) (text : List Char) :
    (takeSpelled verbose test false text).2 <:+ trim verbose text := by
  have run (inComment : Bool) :
      (takeSpelled true test inComment text).2 <:+ skipBlanks inComment text := by
    induction text generalizing inComment with
    | nil => exact List.suffix_refl _
    | cons c text ih =>
      cases blank : blank? true inComment c with
      | some next =>
        rw [skipBlanks_cons, takeSpelled_cons, blank]
        exact ih next
      | none =>
        rw [skipBlanks_cons, blank]
        exact takeSpelled_suffix true test inComment (c :: text)
  cases verbose with
  | false => exact takeSpelled_suffix false test false text
  | true => exact run false

/-- Braces behind a word edge that are left for a count have something in them. -/
def Braced (verbose : Bool) (rest behind : List Char) : Prop :=
  ∀ inside, rest = '\x7b' :: inside →
    ∃ front, front ≠ [] ∧ trim verbose (inside ++ behind) = front ++ behind

theorem readWordEdge_cut {verbose : Bool} {found : WordEdge} (closing : Closing more)
    (h : readWordEdge verbose (text ++ ')' :: after) = .ok (found, rest ++ ')' :: after))
    (braced : Braced verbose rest (')' :: after)) :
    readWordEdge verbose (text ++ more) = .ok (found, rest ++ more) := by
  have plain (text : List Char) (front : text.head? ≠ some '\x7b') :
      readWordEdge verbose text = .ok (.boundary, text) :=
    readWordEdge.eq_2 _ _ fun rest same => front (by rw [same]; rfl)
  have head {text tail : List Char} (some : text ≠ []) : (text ++ tail).head? = text.head? := by
    obtain ⟨c, text, rfl⟩ := List.exists_cons_of_ne_nil some
    rfl
  by_cases brace : ∃ inside, text = '\x7b' :: inside
  · obtain ⟨inside, rfl⟩ := brace
    rw [List.cons_append, readWordEdge] at h ⊢
    split at h
    · rename_i letter
      split at h
      · rename_i name left taken
        split at h
        · rename_i edge known
          obtain ⟨rfl, rfl⟩ := Prod.mk.inj (Except.ok.inj h)
          have late := takeSpelled_suffix_trim verbose isEdgeLetter (inside ++ ')' :: after)
          rw [taken] at late
          obtain ⟨front, blanks⟩ := exists_of_suffix _ ((List.suffix_cons _ _).trans late)
          have some : front ≠ [] := by
            intro nothing
            rw [blanks, nothing] at late
            have := late.length_le
            simp only [List.length_append, List.length_cons, List.length_nil] at this
            omega
          rw [blanks, head some] at letter
          rw [trim_cut _ closing blanks, head some, if_pos letter,
            takeSpelled_cut ('\x7d' :: rest) closing taken]
          simp only [List.cons_append, known]
        · cases h
      · cases h
    · rename_i letter
      obtain ⟨rfl, rfl⟩ : _ ∧ '\x7b' :: inside = rest := eq_of_left (Except.ok.inj h)
      obtain ⟨front, some, blanks⟩ := braced inside rfl
      rw [blanks, head some] at letter
      rw [trim_cut _ closing blanks, head some, if_neg letter]
      rfl
  · have other {behind : List Char} (closing : Closing behind) :
        (text ++ behind).head? ≠ some '\x7b' := by
      intro same
      obtain ⟨inside, whole⟩ := List.head?_eq_some_iff.mp same
      obtain ⟨front, rfl, _⟩ := closing.eq_cons (by decide) whole
      exact brace ⟨front, rfl⟩
    rw [plain _ (other (closing_cons after))] at h
    obtain ⟨rfl, rfl⟩ := eq_of_left (Except.ok.inj h)
    exact plain _ (other closing)

theorem readProperty_cut {verbose negated : Bool} {found : Atom} (closing : Closing more)
    (h : readProperty verbose negated (text ++ ')' :: after) = .ok (found, rest ++ ')' :: after)) :
    readProperty verbose negated (text ++ more) = .ok (found, rest ++ more) := by
  unfold readProperty at h
  split at h
  · cases h
  · cases h
  · rename_i inside brace
    split at h
    · cases h
    · rename_i name c left taken
      obtain ⟨atom, known, same⟩ := map_eq_ok h
      obtain ⟨rfl, rfl⟩ := Prod.mk.inj same
      obtain ⟨tail, rfl⟩ : ∃ tail, inside = tail ++ ')' :: after := by
        have behind := takeSpelled_suffix verbose (· != '\x7d') false inside
        rw [taken] at behind
        exact exists_of_suffix _ ((List.suffix_cons _ _).trans behind)
      unfold readProperty
      rw [trim_cut ('\x7b' :: tail) closing brace]
      simp only [List.cons_append, takeSpelled_cut (c :: rest) closing taken]
      rw [known]
      rfl
  · rename_i c left escape brace front
    obtain ⟨atom, known, same⟩ := map_eq_ok h
    obtain ⟨rfl, blanks⟩ := Prod.mk.inj same
    have late := trim_suffix verbose left
    rw [blanks] at late
    obtain ⟨tail, rfl⟩ := exists_of_suffix _ late
    unfold readProperty
    rw [trim_cut (c :: tail) closing front, List.cons_append]
    split
    · rename_i same
      cases same
    · rename_i same
      exact absurd (List.cons.inj same).1 escape
    · rename_i same
      exact absurd (List.cons.inj same).1 brace
    · rename_i same
      cases same
      rw [known, trim_cut _ closing blanks]
      rfl

theorem readEscape_cut {verbose : Bool} {found : Atom} (closing : Closing more)
    (h : readEscape verbose (text ++ ')' :: after) = .ok (found, rest ++ ')' :: after))
    (braced : ∀ edge, found = .word edge → Braced verbose rest (')' :: after)) :
    readEscape verbose (text ++ more) = .ok (found, rest ++ more) := by
  cases text with
  | nil =>
    have direct : readEscape verbose (')' :: after) = .ok (.character ')', after) := rfl
    obtain ⟨_, same⟩ := Prod.mk.inj (Except.ok.inj (direct.symm.trans h))
    exact absurd ⟨[], same.symm⟩ not_suffix_after
  | cons c text =>
    rw [List.cons_append] at h ⊢
    unfold readEscape at h
    split at h
    · cases h
    · rename_i same
      cases same
      exact readCode_cut closing h
    · rename_i same
      cases same
      exact readCode_cut closing h
    · rename_i same
      cases same
      exact readCode_cut closing h
    · rename_i same
      cases same
      exact readProperty_cut closing h
    · rename_i same
      cases same
      exact readProperty_cut closing h
    · rename_i same
      cases same
      obtain ⟨⟨edge, left⟩, read, same⟩ := map_eq_ok h
      obtain ⟨rfl, rfl⟩ := Prod.mk.inj same
      rw [readEscape, readWordEdge_cut closing read (braced edge rfl)]
      rfl
    · rename_i c' left x u u' p p' b same
      cases same
      obtain ⟨atom, known, same⟩ := map_eq_ok h
      obtain ⟨rfl, rfl⟩ := eq_of_left same
      rw [readEscape.eq_8 _ _ _ x u u' p p' b, known]
      rfl

end Lexeme

end Stencil.Regex
