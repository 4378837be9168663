import Stencil.Proofs.Regex.Seams.Brackets
import Stencil.Regex.Lexeme.Stream
/-!
# Seams

An expression is put together from texts that are expressions on their own. The lexemes of
a text stay the same when other text is put behind it, as long as the other text does not
begin with a mark that belongs to what stands before it. Only blanks at the end of a
verbose text can run on over the seam.
-/
namespace Stencil.Regex

namespace Lexeme

/-! ## Heads of groups -/

theorem readGroupName_append {text rest : List Char} {found : Lexeme}
    (h : readGroupName text = .ok (found, rest)) (more : List Char) :
    readGroupName (text ++ more) = .ok (found, rest ++ more) := by
  unfold readGroupName at h ⊢
  dsimp only at h ⊢
  split at h
  · cases h
  · rename_i c after front
    rw [(dropWhile_append_of_cons front more).1, (dropWhile_append_of_cons front more).2]
    split at h
    · rename_i valid
      cases h
      simp only [valid, if_true]
    · cases h

theorem readFlagHead_append {text rest : List Char} {found : Lexeme}
    (h : readFlagHead text = .ok (found, rest)) (more : List Char) :
    readFlagHead (text ++ more) = .ok (found, rest ++ more) := by
  unfold readFlagHead at h ⊢
  dsimp only at h ⊢
  split at h
  · cases h
  · rename_i after front
    rw [(dropWhile_append_of_cons front more).1, (dropWhile_append_of_cons front more).2]
    obtain ⟨change, read, h⟩ := bind_eq_ok h
    cases h
    rw [read]
    rfl
  · rename_i c after colon front
    split at h
    · cases h
    · rename_i some
      obtain ⟨change, read, h⟩ := bind_eq_ok h
      cases h
      rw [(dropWhile_append_of_cons front more).1, (dropWhile_append_of_cons front more).2]
      split
      · rename_i same
        cases same
      · rename_i same
        cases same
        exact (colon rfl).elim
      · rename_i same
        cases same
        rw [if_neg some, read]
        rfl

/-- Whether blanks may mean something else behind a lexeme than before it. -/
def switches : Lexeme → Bool
  | flags _ | openGroup _ | close => true
  | atom _ | openCapture _ | bar | quantifier _ _ => false

private theorem readGroupHead_of_plain {verbose : Bool} {text : List Char}
    (plain : (trim verbose text).head? ≠ some '?') :
    readGroupHead verbose text = .ok (.openCapture none, trim verbose text) := by
  unfold readGroupHead
  split
  · rename_i same
    simp [same] at plain
  · rename_i same
    simp [same] at plain
  · rename_i same
    simp [same] at plain
  · rfl

/-- A head that ends after one character can only be a colon. -/
private theorem eq_colon_of_readFlagHead {c : Char} {rest : List Char} {found : Lexeme}
    (h : readFlagHead [c] = .ok (found, rest)) : c = ':' := by
  by_contra other
  unfold readFlagHead at h
  by_cases closing : c = ')'
  · subst closing
    cases h
  · simp [other, closing] at h

/-- Behind a question mark the head has an end of its own. -/
private theorem readGroupHead_of_mark {verbose : Bool} {text inside rest : List Char}
    {found : Lexeme} (front : trim verbose text = '?' :: inside)
    (h : readGroupHead verbose text = .ok (found, rest)) (more : List Char) :
    readGroupHead verbose (text ++ more) = .ok (found, rest ++ more) := by
  have whole : trim verbose (text ++ more) = '?' :: (inside ++ more) :=
    trim_append_of_cons front more
  unfold readGroupHead at h ⊢
  rw [whole]
  rw [front] at h
  split at h
  · rename_i name same
    cases same
    exact readGroupName_append h more
  · rename_i name same
    cases same
    exact readGroupName_append h more
  · rename_i flags named named' same
    cases same
    have flags := readFlagHead_append h more
    rcases inside with _ | ⟨c, _ | ⟨d, behind⟩⟩
    · cases h
    · -- the text behind stays outside
      obtain rfl := eq_colon_of_readFlagHead h
      exact flags
    · rw [List.cons_append, List.cons_append] at flags ⊢
      split
      · rename_i same
        cases same
        exact (named _ rfl).elim
      · rename_i same
        cases same
        exact (named' _ rfl).elim
      · rename_i same
        cases same
        exact flags
      · rename_i none
        exact (none _ rfl).elim
  · rename_i none
    exact (none _ rfl).elim

theorem readGroupHead_append {verbose : Bool} {text rest more : List Char} {found : Lexeme}
    (h : readGroupHead verbose text = .ok (found, rest))
    (apart : rest = [] → found.switches = false → Apart verbose more) :
    ∃ tail, Leaves (verbose = false ∨ rest ≠ [] ∨ found.switches) more tail ∧
      readGroupHead verbose (text ++ more) = .ok (found, rest ++ tail) := by
  by_cases mark : (trim verbose text).head? = some '?'
  · obtain ⟨inside, front⟩ := List.head?_eq_some_iff.mp mark
    exact ⟨more, .all _ _, readGroupHead_of_mark front h more⟩
  · rw [readGroupHead_of_plain mark] at h
    cases h
    obtain ⟨tail, left, blanks⟩ := trim_append verbose text more
    have plain : (trim verbose (text ++ more)).head? ≠ some '?' := by
      rw [blanks]
      cases front : trim verbose text with
      | nil => exact (apart front rfl tail (left.imp .inl)).1
      | cons c inside =>
        rw [front] at mark
        exact mark
    refine ⟨tail, left.imp ?_, ?_⟩
    · simp [switches]
    · rw [readGroupHead_of_plain plain, blanks]

/-! ## Whole texts -/

private theorem switches_quantify (bounds : Bounds) (text : List Char) :
    (quantify bounds text).1.switches = false := by
  unfold quantify
  split <;> rfl

/-- What is read at the front of a text is read there whatever stands behind the text. -/
theorem read_append {verbose : Bool} {c : Char} {text rest more : List Char} {lexeme : Lexeme}
    (h : read verbose c text = .ok (lexeme, rest))
    (apart : rest = [] → lexeme.switches = false → Apart verbose more) :
    ∃ tail, Leaves (verbose = false ∨ rest ≠ [] ∨ lexeme.switches) more tail ∧
      read verbose c (text ++ more) = .ok (lexeme, rest ++ tail) := by
  have mark (bounds : Bounds) (h : quantify bounds text = (lexeme, rest)) :
      quantify bounds (text ++ more) = (lexeme, rest ++ more) := by
    apply quantify_append h
    intro empty
    have ends := quantify_suffix bounds text
    have plain := switches_quantify bounds text
    rw [h] at ends plain
    rw [empty] at ends
    exact (apart (List.suffix_nil.mp ends) plain more (.all _ _)).1
  unfold read at h
  split at h
  · obtain ⟨⟨item, after⟩, inner, same⟩ := map_eq_ok h
    cases same
    obtain ⟨tail, left, whole⟩ := readEscape_append inner fun empty => apart empty rfl
    refine ⟨tail, left.imp ?_, ?_⟩
    · simp [switches]
    · rw [read, whole]
      rfl
  · obtain ⟨⟨item, after⟩, inner, same⟩ := map_eq_ok h
    cases same
    refine ⟨more, .all _ _, ?_⟩
    rw [read, readClass_append inner]
    rfl
  · have plain : lexeme.switches = false := by
      obtain ⟨⟨bounds, after⟩, _, same⟩ := map_eq_ok h
      have plain := switches_quantify bounds (trim verbose after)
      dsimp only at same
      rwa [same] at plain
    obtain ⟨tail, left, whole⟩ := readCount_append h fun empty => apart empty plain
    refine ⟨tail, left.imp ?_, whole⟩
    simp [plain]
  · exact readGroupHead_append h apart
  · cases h
    exact ⟨more, .all _ _, rfl⟩
  · cases h
    exact ⟨more, .all _ _, rfl⟩
  · exact ⟨more, .all _ _, congrArg Except.ok (mark _ (Except.ok.inj h))⟩
  · exact ⟨more, .all _ _, congrArg Except.ok (mark _ (Except.ok.inj h))⟩
  · exact ⟨more, .all _ _, congrArg Except.ok (mark _ (Except.ok.inj h))⟩
  · cases h
    exact ⟨more, .all _ _, rfl⟩
  · cases h
    exact ⟨more, .all _ _, rfl⟩
  · cases h
    exact ⟨more, .all _ _, rfl⟩
  · cases h
    refine ⟨more, .all _ _, ?_⟩
    rw [read.eq_13] <;> assumption

theorem readAll_nil (verbosity : Verbosity) : readAll verbosity [] = .ok [] :=
  readAll_of_trim_eq_nil (by cases verbosity.verbose <;> rfl)

/-- A closing parenthesis is read as such in any state. -/
theorem readAll_close (verbosity : Verbosity) (behind : List Char) :
    readAll verbosity (')' :: behind) =
      (readAll (verbosity.after .close) behind).map fun following => .close :: following := by
  have front : trim verbosity.verbose (')' :: behind) = ')' :: behind := by
    cases verbosity.verbose <;> rfl
  exact readAll_of_ok front rfl

/-- Blanks in front of a text make no difference to its lexemes. -/
theorem readAll_trim (verbosity : Verbosity) (text : List Char) :
    readAll verbosity (trim verbosity.verbose text) = readAll verbosity text := by
  cases front : trim verbosity.verbose text with
  | nil =>
    have again : trim verbosity.verbose [] = [] := by rw [← front, trim_trim]
    rw [readAll_of_trim_eq_nil front, readAll_of_trim_eq_nil again]
  | cons c rest =>
    have again : trim verbosity.verbose (c :: rest) = c :: rest := by rw [← front, trim_trim]
    cases found : read verbosity.verbose c rest with
    | error fault => rw [readAll_of_error front found, readAll_of_error again found]
    | ok result => rw [readAll_of_ok front found, readAll_of_ok again found]

theorem verbose_after {lexeme : Lexeme} (h : lexeme.switches = false) (verbosity : Verbosity) :
    (verbosity.after lexeme).verbose = verbosity.verbose := by
  cases lexeme with
  | flags change | openGroup change | close => cases h
  | atom atom | openCapture name | bar | quantifier bounds greedy => rfl

/-- The lexemes of two texts in a row are those of the first and then those of the second,
which is read as the first leaves it: blanks at the end of a verbose text run on, and nothing
else does. -/
theorem readAll_append {verbosity : Verbosity} {text more : List Char} {lexemes : List Lexeme}
    (h : readAll verbosity text = .ok lexemes)
    (apart : Apart (lexemes.foldl Verbosity.after verbosity).verbose more) :
    ∃ tail, Leaves ((lexemes.foldl Verbosity.after verbosity).verbose = false) more tail ∧
      readAll verbosity (text ++ more) =
        (readAll (lexemes.foldl Verbosity.after verbosity) tail).map (lexemes ++ ·) := by
  have map_nil (result : Except SyntaxFault (List Lexeme)) : result.map ([] ++ ·) = result := by
    cases result <;> rfl
  induction size : text.length using Nat.strong_induction_on
    generalizing verbosity text lexemes with
  | _ n ih =>
    cases front : trim verbosity.verbose text with
    | nil =>
      rw [readAll_of_trim_eq_nil front] at h
      cases h
      obtain ⟨tail, left, blanks⟩ := trim_append verbosity.verbose text more
      refine ⟨tail, left.imp .inl, ?_⟩
      rw [← readAll_trim, blanks, front]
      exact (map_nil _).symm
    | cons c rest =>
      cases found : read verbosity.verbose c rest with
      | error fault =>
        rw [readAll_of_error front found] at h
        cases h
      | ok result =>
        obtain ⟨lexeme, after⟩ := result
        rw [readAll_of_ok front found] at h
        obtain ⟨following, further, same⟩ := map_eq_ok h
        cases same
        have last (empty : after = []) : following = [] := by
          subst empty
          rw [readAll_nil] at further
          cases further
          rfl
        have apart' : after = [] → lexeme.switches = false → Apart verbosity.verbose more := by
          intro empty plain
          rw [last empty] at apart
          rwa [← verbose_after plain]
        obtain ⟨tail, left, whole⟩ := read_append found apart'
        have step := readAll_of_ok (trim_append_of_cons front more) whole
        by_cases kept : after ≠ [] ∨ lexeme.switches
        · obtain rfl := left.2 (.inr kept)
          have shorter : after.length < n := by
            have := (trim_suffix verbosity.verbose text).length_le
            have := (read_suffix found).length_le
            simp only [front, List.length_cons] at *
            omega
          obtain ⟨tail', left', behind⟩ := ih _ shorter further apart rfl
          refine ⟨tail', left', ?_⟩
          rw [step, behind, List.foldl_cons]
          cases readAll _ tail' <;> rfl
        · -- only blanks stand between the last lexeme and what follows
          rw [not_or, not_not, Bool.not_eq_true] at kept
          obtain ⟨empty, plain⟩ := kept
          rw [last empty] at apart ⊢
          refine ⟨tail, left.imp ?_, ?_⟩
          · intro final
            rw [← verbose_after plain]
            exact .inl final
          · rw [step, empty, List.nil_append]
            rfl

end Lexeme

end Stencil.Regex
