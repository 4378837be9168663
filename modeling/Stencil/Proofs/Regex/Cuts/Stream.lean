import Stencil.Proofs.Regex.Cuts.Brackets
import Stencil.Proofs.Regex.Pieces
/-!
# Cuts

Where a closing parenthesis closes no group of the text in front of it, that text is read as
it is read alone. The text may stand within other groups, and anything may stand behind the
parenthesis.
-/
namespace Stencil.Regex

namespace Lexeme

variable {text rest after more : List Char}

/-! ## Heads of groups -/

theorem readGroupName_cut {found : Lexeme} (closing : Closing more)
    (h : readGroupName (text ++ ')' :: after) = .ok (found, rest ++ ')' :: after)) :
    readGroupName (text ++ more) = .ok (found, rest ++ more) := by
  unfold readGroupName at h ⊢
  dsimp only at h ⊢
  split at h
  · cases h
  · rename_i c left front
    split at h
    · rename_i valid
      cases h
      obtain ⟨dropped, taken⟩ := dropWhile_cut (c :: rest) closing front
      rw [dropped, taken]
      simp only [List.cons_append, valid, if_true]
    · cases h

theorem readFlagHead_cut {found : Lexeme} (closing : Closing more)
    (h : readFlagHead (text ++ ')' :: after) = .ok (found, rest ++ ')' :: after)) :
    readFlagHead (text ++ more) = .ok (found, rest ++ more) := by
  unfold readFlagHead at h ⊢
  dsimp only at h ⊢
  split at h
  · cases h
  · rename_i left front
    obtain ⟨change, read, h⟩ := bind_eq_ok h
    cases h
    obtain ⟨dropped, taken⟩ := dropWhile_cut (':' :: rest) closing front
    rw [dropped, taken, read]
    rfl
  · rename_i c left colon front
    split at h
    · cases h
    · rename_i some
      obtain ⟨change, read, h⟩ := bind_eq_ok h
      cases h
      obtain ⟨dropped, taken⟩ := dropWhile_cut (c :: rest) closing front
      rw [dropped, taken, List.cons_append]
      split
      · rename_i same
        cases same
      · rename_i same
        cases same
        exact (colon rfl).elim
      · rename_i same
        cases same
        rw [if_neg some, read]
        rfl

/-- What is left behind the head of a group is left of the text behind its blanks. -/
private theorem readGroupHead_suffix_trim {verbose : Bool} {found : Lexeme}
    (h : readGroupHead verbose text = .ok (found, rest)) : rest <:+ trim verbose text := by
  unfold readGroupHead at h
  split at h
  · rename_i name front
    rw [front]
    exact (readGroupName_suffix h).trans ⟨['?', 'P', '<'], rfl⟩
  · rename_i name front
    rw [front]
    exact (readGroupName_suffix h).trans ⟨['?', '<'], rfl⟩
  · rename_i flags named named' front
    rw [front]
    exact (readFlagHead_suffix h).trans ⟨['?'], rfl⟩
  · obtain ⟨_, same⟩ := Prod.mk.inj (Except.ok.inj h)
    exact same ▸ List.suffix_refl _

theorem readGroupHead_cut {verbose : Bool} {found : Lexeme} (closing : Closing more)
    (h : readGroupHead verbose (text ++ ')' :: after) = .ok (found, rest ++ ')' :: after)) :
    readGroupHead verbose (text ++ more) = .ok (found, rest ++ more) := by
  obtain ⟨inner, blanks⟩ := exists_of_suffix _ (readGroupHead_suffix_trim h)
  unfold readGroupHead at h ⊢
  rw [blanks] at h
  rw [trim_cut _ closing blanks]
  split at h
  · rename_i name front
    obtain ⟨name, rfl, rfl⟩ :=
      (closing_cons after).eq_append ['?', 'P', '<'] (by decide) front
    exact readGroupName_cut closing h
  · rename_i name front
    obtain ⟨name, rfl, rfl⟩ :=
      (closing_cons after).eq_append ['?', '<'] (by decide) front
    exact readGroupName_cut closing h
  · rename_i flags named named' front
    obtain ⟨flags, rfl, rfl⟩ := (closing_cons after).eq_cons (by decide) front
    split
    · rename_i same
      obtain ⟨name, front, _⟩ := closing.eq_append ['?', 'P', '<'] (by decide) same
      cases front
      exact (named _ rfl).elim
    · rename_i same
      obtain ⟨name, front, _⟩ := closing.eq_append ['?', '<'] (by decide) same
      cases front
      exact (named' _ rfl).elim
    · rename_i same
      cases same
      exact readFlagHead_cut closing h
    · rename_i none
      exact (none _ rfl).elim
  · rename_i named named' flags
    obtain ⟨rfl, rfl⟩ := eq_of_left (Except.ok.inj h)
    split
    · rename_i same
      obtain ⟨_, rfl, _⟩ := closing.eq_cons (by decide) same
      exact absurd rfl (flags _)
    · rename_i same
      obtain ⟨_, rfl, _⟩ := closing.eq_cons (by decide) same
      exact absurd rfl (flags _)
    · rename_i same
      obtain ⟨_, rfl, _⟩ := closing.eq_cons (by decide) same
      exact absurd rfl (flags _)
    · rfl

theorem readGroupHead_ne_close {verbose : Bool} :
    readGroupHead verbose text ≠ .ok (.close, rest) := by
  have name (text : List Char) : readGroupName text ≠ .ok (.close, rest) := by
    intro h
    unfold readGroupName at h
    dsimp only at h
    split at h
    · cases h
    · split at h <;> cases h
  have flags (text : List Char) : readFlagHead text ≠ .ok (.close, rest) := by
    intro h
    unfold readFlagHead at h
    dsimp only at h
    split at h
    · cases h
    · obtain ⟨_, _, h⟩ := bind_eq_ok h
      cases h
    · split at h
      · cases h
      · obtain ⟨_, _, h⟩ := bind_eq_ok h
        cases h
  intro h
  unfold readGroupHead at h
  split at h
  · exact name _ h
  · exact name _ h
  · exact flags _ h
  · cases h

/-! ## Whole texts -/

theorem read_cut {verbose : Bool} {c : Char} {lexeme : Lexeme} (closing : Closing more)
    (h : read verbose c (text ++ ')' :: after) = .ok (lexeme, rest ++ ')' :: after))
    (braced : lexeme.switches = false → Braced verbose rest (')' :: after)) :
    read verbose c (text ++ more) = .ok (lexeme, rest ++ more) := by
  have mark {bounds : Bounds} (h : Except.ok (quantify bounds (text ++ ')' :: after)) =
      Except.ok (ε := SyntaxFault) (lexeme, rest ++ ')' :: after)) :
      Except.ok (quantify bounds (text ++ more)) =
        Except.ok (ε := SyntaxFault) (lexeme, rest ++ more) :=
    congrArg Except.ok (quantify_cut closing (Except.ok.inj h))
  have plain {found : Lexeme} (h : Except.ok (found, text ++ ')' :: after) =
      Except.ok (ε := SyntaxFault) (lexeme, rest ++ ')' :: after)) :
      Except.ok (found, text ++ more) = Except.ok (ε := SyntaxFault) (lexeme, rest ++ more) := by
    obtain ⟨rfl, rfl⟩ := eq_of_left (Except.ok.inj h)
    rfl
  unfold read at h
  split at h
  · obtain ⟨⟨item, left⟩, inner, same⟩ := map_eq_ok h
    obtain ⟨rfl, rfl⟩ := Prod.mk.inj same
    rw [read, readEscape_cut closing inner fun _ _ => braced rfl]
    rfl
  · obtain ⟨⟨item, left⟩, inner, same⟩ := map_eq_ok h
    obtain ⟨rfl, rfl⟩ := Prod.mk.inj same
    rw [read, readClass_cut closing inner]
    rfl
  · exact (readCount_cut closing h).2
  · exact readGroupHead_cut closing h
  · exact plain h
  · exact plain h
  · exact mark h
  · exact mark h
  · exact mark h
  · exact plain h
  · exact plain h
  · exact plain h
  · rw [read.eq_13] <;> first | assumption | exact plain h

/-- Only a closing parenthesis is read as one. -/
theorem eq_of_read_close {verbose : Bool} {c : Char} (h : read verbose c text = .ok (.close, rest)) :
    c = ')' ∧ rest = text := by
  have mark (bounds : Bounds) (text : List Char) : (quantify bounds text).1 ≠ .close := by
    unfold quantify
    split <;> simp
  unfold read at h
  split at h
  · obtain ⟨_, _, same⟩ := map_eq_ok h
    cases same
  · obtain ⟨_, _, same⟩ := map_eq_ok h
    cases same
  · obtain ⟨⟨bounds, left⟩, _, same⟩ := map_eq_ok h
    exact absurd (congrArg Prod.fst same) (mark bounds _)
  · exact absurd h readGroupHead_ne_close
  · cases h
    exact ⟨rfl, rfl⟩
  · cases h
  · exact absurd (congrArg Prod.fst (Except.ok.inj h)) (mark _ _)
  · exact absurd (congrArg Prod.fst (Except.ok.inj h)) (mark _ _)
  · exact absurd (congrArg Prod.fst (Except.ok.inj h)) (mark _ _)
  · cases h
  · cases h
  · cases h
  · cases h

private theorem trim_brace (verbose : Bool) (text : List Char) :
    trim verbose ('\x7b' :: text) = '\x7b' :: text := by
  cases verbose <;> rfl

/-- A text in front of a closing parenthesis that closes none of its groups is read there as it
is read wherever such a parenthesis or nothing stands behind it. -/
theorem readAll_cut {inner following : List Lexeme} (verbosity : Verbosity) (outer : List Bool)
    {own own' : Builder}
    (lexed : readAll (verbosity.within outer) text = .ok (inner ++ .close :: following))
    (built : inner.foldlM Builder.step own = .ok own')
    (level : own.enclosing.length = verbosity.enclosing.length) :
    ∃ front behind, text = front ++ ')' :: behind ∧
      Braced verbosity.verbose front (')' :: behind) ∧
      ∀ more, Closing more → readAll verbosity (front ++ more) =
        (readAll (inner.foldl Verbosity.after verbosity) more).map (inner ++ ·) := by
  induction inner generalizing verbosity text own with
  | nil =>
    obtain ⟨c, behind, _, blanks, found, _⟩ := readAll_cons lexed
    obtain ⟨rfl, rfl⟩ := eq_of_read_close found
    change trim verbosity.verbose text = _ at blanks
    have whole := trim_suffix verbosity.verbose text
    rw [blanks] at whole
    obtain ⟨front, rfl⟩ := whole
    refine ⟨front, _, rfl, ?_, ?_⟩
    · intro inside brace
      rw [brace, List.cons_append, trim_brace] at blanks
      cases blanks
    · intro more closing
      rw [← readAll_trim, trim_cut [] closing blanks, List.nil_append]
      change readAll verbosity more = (readAll verbosity more).map ([] ++ ·)
      cases readAll verbosity more <;> rfl
  | cons lexeme inner ih =>
    obtain ⟨c, left, next, blanks, found, further⟩ := readAll_cons lexed
    change trim verbosity.verbose text = _ at blanks
    change read verbosity.verbose c left = _ at found
    rw [List.foldlM_cons] at built
    obtain ⟨middle, step, built⟩ := bind_eq_ok built
    obtain ⟨same, level'⟩ := after_within step level outer
    rw [same] at further
    obtain ⟨tail, behind, rfl, braced, ends⟩ := ih _ further built level'
    obtain ⟨body, rfl⟩ := exists_of_suffix _ (read_suffix found)
    obtain ⟨front, rfl⟩ : ∃ front, text = front ++ ')' :: behind := by
      have whole := trim_suffix verbosity.verbose text
      rw [blanks] at whole
      exact exists_of_suffix (c :: body) whole
    refine ⟨front, behind, rfl, ?_, ?_⟩
    · intro inside brace
      subst brace
      rw [List.cons_append, trim_brace] at blanks
      obtain ⟨rfl, same⟩ := List.cons.inj blanks
      obtain rfl : inside = body := List.append_cancel_right same
      exact (readCount_cut closing_nil found).1
    · intro more closing
      have plain (h : lexeme.switches = false) :
          Braced verbosity.verbose tail (')' :: behind) := by
        rwa [verbose_after h] at braced
      have start := trim_cut (c :: body) closing blanks
      rw [readAll_of_ok start (read_cut closing found plain), ends more closing, List.foldl_cons]
      cases readAll _ more <;> rfl

end Lexeme

/-! ## Groups around a text -/

namespace Builder

/-- The same builder with more groups around it. -/
def around (builder : Builder) (outer : List (GroupKind × Content)) : Builder :=
  { builder with enclosing := builder.enclosing ++ outer }

variable {own final : Builder} {outer : List (GroupKind × Content)}

/-- A lexeme closes the first of the groups around a builder, or it does within them what it
does alone. -/
theorem step_around {lexeme : Lexeme} {whole : Builder}
    (h : (own.around outer).step lexeme = .ok whole) :
    (lexeme = .close ∧ own.enclosing = []) ∨
      ∃ own', own.step lexeme = .ok own' ∧ whole = own'.around outer := by
  cases lexeme with
  | atom atom | flags change | bar | openGroup change =>
    cases h
    exact .inr ⟨_, rfl, rfl⟩
  | openCapture name =>
    cases name with
    | none =>
      cases h
      exact .inr ⟨_, rfl, rfl⟩
    | some name =>
      obtain ⟨new, rfl⟩ := step_named_iff.mp h
      exact .inr ⟨_, step_named_iff.mpr ⟨new, rfl⟩, rfl⟩
  | quantifier bounds greedy =>
    obtain ⟨content, repeated, rfl⟩ := step_quantifier_iff.mp h
    exact .inr ⟨_, step_quantifier_iff.mpr ⟨content, repeated, rfl⟩, rfl⟩
  | close =>
    obtain ⟨content, enclosing, names⟩ := own
    cases enclosing with
    | nil => exact .inl ⟨rfl, rfl⟩
    | cons frame enclosing =>
      cases h
      exact .inr ⟨_, rfl, rfl⟩

/-- Where a group that stood around a text is closed in the end, some closing parenthesis closes
none of the text's own groups. -/
theorem exists_close (own : Builder) (outer : List (GroupKind × Content)) {lexemes : List Lexeme}
    (h : lexemes.foldlM step (own.around outer) = .ok final)
    (fewer : final.enclosing.length < outer.length) : ∃ inner following own',
      lexemes = inner ++ .close :: following ∧ inner.foldlM step own = .ok own' ∧
        own'.enclosing = [] ∧
        (Lexeme.close :: following).foldlM step (own'.around outer) = .ok final := by
  induction lexemes generalizing own with
  | nil =>
    cases h
    simp only [around, List.length_append] at fewer
    omega
  | cons lexeme lexemes ih =>
    rw [List.foldlM_cons] at h
    obtain ⟨next, taken, rest⟩ := bind_eq_ok h
    rcases step_around taken with ⟨rfl, closed⟩ | ⟨own', alone, rfl⟩
    · exact ⟨[], lexemes, own, rfl, rfl, closed, h⟩
    · obtain ⟨inner, following, last, rfl, built, closed, further⟩ := ih _ rest
      refine ⟨lexeme :: inner, following, last, rfl, ?_, closed, further⟩
      rw [List.foldlM_cons, alone]
      exact built

end Builder

end Stencil.Regex
