import Stencil.Proofs.Regex.Seams.Count
import Stencil.Regex.Lexeme.Escape
/-!
# Escapes at a seam

An escape is read the same whatever stands behind it. Only a word edge looks further, for
the braces that would make it another one.
-/
namespace Stencil.Regex

namespace Lexeme

theorem readHexDigits_append {verbose : Bool} {count : Nat} {text digits rest : List Char}
    (h : readHexDigits verbose count text = .ok (digits, rest)) (more : List Char) :
    ∃ tail, Leaves (verbose = false ∨ rest ≠ []) more tail ∧
      readHexDigits verbose count (text ++ more) = .ok (digits, rest ++ tail) := by
  induction count generalizing text digits with
  | zero =>
    cases h
    exact ⟨more, .all _ _, rfl⟩
  | succ count ih =>
    cases text with
    | nil => cases h
    | cons c text =>
      rw [readHexDigits] at h
      rw [List.cons_append, readHexDigits]
      split at h
      · rename_i digit
        rw [if_pos digit]
        obtain ⟨⟨front, behind⟩, read, same⟩ := map_eq_ok h
        cases same
        obtain ⟨tail, left, blanks⟩ := trim_append verbose text more
        by_cases empty : trim verbose text = []
        · rw [empty] at read blanks
          cases count with
          | zero =>
            cases read
            refine ⟨tail, left.imp fun h => h.imp_right (absurd rfl), ?_⟩
            rw [blanks]
            rfl
          | succ count => cases read
        · obtain ⟨tail', left', whole⟩ := ih read
          rw [left.2 (.inr empty)] at blanks
          refine ⟨tail', left', ?_⟩
          rw [blanks, whole]
          rfl
      · cases h

theorem readCode_append {verbose : Bool} {count : Nat} {ofDigits : Char → Atom}
    {text rest : List Char} {found : Atom} (positive : 0 < count)
    (h : readCode verbose count ofDigits text = .ok (found, rest)) (more : List Char) :
    ∃ tail, Leaves (verbose = false ∨ rest ≠ []) more tail ∧
      readCode verbose count ofDigits (text ++ more) = .ok (found, rest ++ tail) := by
  unfold readCode at h ⊢
  split at h
  · rename_i inside front
    rw [trim_append_of_cons front]
    split at h
    · cases h
    · rename_i digits c after taken
      split at h
      · cases h
      · rename_i valid
        obtain ⟨code, read, same⟩ := map_eq_ok h
        cases same
        obtain ⟨tail, left, blanks⟩ := trim_append verbose after more
        refine ⟨tail, left, ?_⟩
        simp only [takeSpelled_append taken more]
        rw [if_neg valid, read, blanks]
        rfl
  · rename_i unbraced
    obtain ⟨⟨digits, after⟩, read, h⟩ := bind_eq_ok h
    obtain ⟨code, number, same⟩ := map_eq_ok h
    cases same
    obtain ⟨tail, left, whole⟩ := readHexDigits_append read more
    refine ⟨tail, left, ?_⟩
    cases front : trim verbose text with
    | nil =>
      rw [front] at read
      cases count with
      | zero => cases positive
      | succ count => cases read
    | cons c behind =>
      rw [trim_append_of_cons front]
      rw [front] at unbraced whole
      have brace : c ≠ '\x7b' := fun same => unbraced behind (by rw [same])
      split
      · rename_i same
        exact absurd (List.cons.inj same).1 brace
      · rw [← List.cons_append, whole]
        change (characterOf digits).map _ = _
        rw [number]
        rfl

theorem readWordEdge_append {verbose : Bool} {text rest more : List Char} {found : WordEdge}
    (h : readWordEdge verbose text = .ok (found, rest))
    (apart : rest = [] → more.head? ≠ some '\x7b') :
    readWordEdge verbose (text ++ more) = .ok (found, rest ++ more) := by
  cases text with
  | nil =>
    cases h
    cases more with
    | nil => rfl
    | cons c more =>
      have hc : c ≠ '\x7b' := fun same => apart rfl (by simp [same])
      rw [List.nil_append, readWordEdge.eq_2 _ _ fun rest same => hc (List.cons.inj same).1]
  | cons c text =>
    by_cases hc : c = '\x7b'
    · subst hc
      rw [readWordEdge] at h
      rw [List.cons_append, readWordEdge]
      cases front : trim verbose text with
      | nil =>
        rw [front] at h
        simp [takeSpelled_of_trim_eq_nil front] at h
      | cons d behind =>
        rw [trim_append_of_cons front, List.head?_cons]
        rw [front, List.head?_cons] at h
        split at h
        · rename_i letter
          rw [if_pos letter]
          split at h
          · rename_i taken
            rw [takeSpelled_append taken]
            split at h
            · rename_i known
              cases h
              simp only [known]
            · cases h
          · cases h
        · rename_i letter
          rw [if_neg letter]
          cases h
          rfl
    · rw [readWordEdge.eq_2 _ _ fun rest same => hc (List.cons.inj same).1] at h
      cases h
      rw [List.cons_append, readWordEdge.eq_2 _ _ fun rest same => hc (List.cons.inj same).1]

theorem readProperty_append {verbose negated : Bool} {text rest : List Char} {found : Atom}
    (h : readProperty verbose negated text = .ok (found, rest)) (more : List Char) :
    ∃ tail, Leaves (verbose = false ∨ rest ≠ []) more tail ∧
      readProperty verbose negated (text ++ more) = .ok (found, rest ++ tail) := by
  unfold readProperty at h ⊢
  split at h
  · cases h
  · cases h
  · rename_i inside front
    rw [trim_append_of_cons front]
    split at h
    · cases h
    · rename_i taken
      obtain ⟨atom, known, same⟩ := map_eq_ok h
      cases same
      refine ⟨more, .all _ _, ?_⟩
      simp only [takeSpelled_append taken more]
      rw [known]
      rfl
  · rename_i c after escape brace front
    obtain ⟨atom, known, same⟩ := map_eq_ok h
    cases same
    obtain ⟨tail, left, blanks⟩ := trim_append verbose after more
    refine ⟨tail, left, ?_⟩
    rw [trim_append_of_cons front]
    split
    · rename_i same
      cases same
    · rename_i same
      exact absurd (List.cons.inj same).1 escape
    · rename_i same
      exact absurd (List.cons.inj same).1 brace
    · rename_i same
      cases same
      rw [known, blanks]
      rfl

theorem readEscape_append {verbose : Bool} {text rest more : List Char} {found : Atom}
    (h : readEscape verbose text = .ok (found, rest)) (apart : rest = [] → Apart verbose more) :
    ∃ tail, Leaves (verbose = false ∨ rest ≠ []) more tail ∧
      readEscape verbose (text ++ more) = .ok (found, rest ++ tail) := by
  unfold readEscape at h
  split at h
  · cases h
  · exact readCode_append (by decide) h more
  · exact readCode_append (by decide) h more
  · exact readCode_append (by decide) h more
  · exact readProperty_append h more
  · exact readProperty_append h more
  · obtain ⟨⟨edge, after⟩, read, same⟩ := map_eq_ok h
    cases same
    refine ⟨more, .all _ _, ?_⟩
    rw [List.cons_append, readEscape, readWordEdge_append read]
    · rfl
    · intro empty
      exact (apart empty more (.all _ _)).2
  · rename_i c after x u u' p p' b
    obtain ⟨atom, known, same⟩ := map_eq_ok h
    cases same
    refine ⟨more, .all _ _, ?_⟩
    rw [List.cons_append, readEscape.eq_8 _ _ _ x u u' p p' b, known]
    rfl

end Lexeme

end Stencil.Regex
