import Stencil.Proofs.Regex.Cuts.Escape
import Stencil.Proofs.Regex.Seams.Brackets
/-!
# Bracketed classes at a cut

A closing parenthesis may stand within a class, so where a class ends in front of one, it is
the bracket that ends it.
-/
namespace Stencil.Regex

namespace Lexeme

variable {text rest after more : List Char}

theorem readMember_cut {verbose : Bool} {found : CharSet} (closing : Closing more)
    (h : readMember verbose (text ++ ')' :: after) = .ok (found, rest ++ ')' :: after)) :
    readMember verbose (text ++ more) = .ok (found, rest ++ more) := by
  cases text with
  | nil =>
    obtain ⟨_, same⟩ := Prod.mk.inj (Except.ok.inj h)
    exact absurd ⟨[], same.symm⟩ not_suffix_after
  | cons c text =>
    rw [List.cons_append] at h ⊢
    by_cases escape : c = '\\'
    · subst escape
      rw [readMember] at h ⊢
      obtain ⟨⟨item, left⟩, read, h⟩ := bind_eq_ok h
      obtain ⟨rfl, single⟩ : left = rest ++ ')' :: after ∧ ∀ edge, item ≠ .word edge := by
        split at h <;> cases h <;> rename_i same <;> cases same <;> simp
      rw [readEscape_cut closing read fun edge same => absurd same (single edge)]
      split at h <;> cases h <;> rename_i same <;> cases same <;> rfl
    · rw [readMember.eq_3 _ _ _ escape] at h ⊢
      obtain ⟨rfl, rfl⟩ := eq_of_left (Except.ok.inj h)
      rfl

theorem readRange_cut {verbose : Bool} {found : CharSet} (closing : Closing more)
    (h : readRange verbose (text ++ ')' :: after) = .ok (found, rest ++ ')' :: after))
    (closes : ']' ∈ rest) : readRange verbose (text ++ more) = .ok (found, rest ++ more) := by
  rw [readRange_eq_ok_iff] at h ⊢
  cases h with
  | @alone _ next _ member left ends =>
    obtain ⟨next, rfl⟩ := exists_of_suffix rest (left ▸ trim_suffix verbose next)
    refine .alone (readMember_cut closing member) (trim_cut rest closing left) ?_
    intro tail same
    obtain ⟨tail, rfl, rfl⟩ := closing.eq_cons (by decide) same
    have within : ']' ∈ tail := by simpa using closes
    have hyphen := ends (tail ++ ')' :: after) rfl
    rw [HyphenEnds, afterHyphen_append within] at hyphen ⊢
    exact hyphen
  | @range _ _ next tail _ _ _ member hyphen joins member' begins stops ordered =>
    have late := readMember_suffix member'
    obtain ⟨inner, blanks⟩ := exists_of_suffix rest late
    obtain ⟨tail, rfl⟩ := exists_of_suffix inner (blanks ▸ trim_suffix verbose tail)
    obtain ⟨next, rfl⟩ := exists_of_suffix ('-' :: tail) (hyphen ▸ trim_suffix verbose next)
    have within : ']' ∈ tail :=
      (suffix_of_append rest (late.trans (trim_suffix verbose _))).subset closes
    rw [blanks] at member'
    have hyphen' : trim verbose (next ++ more) = '-' :: (tail ++ more) :=
      trim_cut ('-' :: tail) closing hyphen
    refine .range (readMember_cut closing member) hyphen' ?_ ?_ begins stops ordered
    · rw [HyphenEnds, afterHyphen_append within] at joins ⊢
      exact joins
    · rw [trim_cut inner closing blanks]
      exact readMember_cut closing member'

private theorem readLeading_cut {verbose negated : Bool} {openClass : OpenClass}
    (closing : Closing more)
    (h : readLeading verbose negated (text ++ ')' :: after) = (openClass, rest ++ ')' :: after)) :
    readLeading verbose negated (text ++ more) = (openClass, rest ++ more) := by
  unfold readLeading at h ⊢
  cases taken : takeSpelled verbose (· == '-') false (text ++ ')' :: after) with
  | mk hyphens left =>
    rw [taken] at h
    dsimp only at h
    have late : rest ++ ')' :: after <:+ left := by
      split at h
      · split at h
        · cases h
          exact List.suffix_cons _ _
        · obtain ⟨_, same⟩ := Prod.mk.inj h
          exact same ▸ List.suffix_refl _
      · obtain ⟨_, same⟩ := Prod.mk.inj h
        exact same ▸ List.suffix_refl _
    obtain ⟨middle, rfl⟩ := exists_of_suffix _ late
    rw [takeSpelled_cut _ closing taken]
    dsimp only
    split at h
    · rename_i bracket
      obtain ⟨tail, rfl, rfl⟩ := (closing_cons after).eq_cons (by decide) bracket
      change (if hyphens.isEmpty then _ else _) = _
      split at h
      · rename_i first
        rw [if_pos first]
        obtain ⟨rfl, rfl⟩ := eq_of_left h
        rfl
      · rename_i first
        rw [if_neg first]
        obtain ⟨rfl, rfl⟩ : _ ∧ ']' :: tail = rest := eq_of_left h
        rfl
    · rename_i plain
      obtain ⟨rfl, rfl⟩ := eq_of_left h
      split
      · rename_i bracket
        obtain ⟨tail, rfl, _⟩ := closing.eq_cons (by decide) bracket
        exact absurd rfl (plain _)
      · rfl

theorem readClassHead_cut {verbose : Bool} {openClass : OpenClass} (closing : Closing more)
    (h : readClassHead verbose (text ++ ')' :: after) = (openClass, rest ++ ')' :: after)) :
    readClassHead verbose (text ++ more) = (openClass, rest ++ more) := by
  unfold readClassHead at h ⊢
  have late : rest ++ ')' :: after <:+ trim verbose (text ++ ')' :: after) := by
    split at h
    · rename_i tail caret
      have behind := readLeading_suffix verbose true tail
      rw [h] at behind
      rw [caret]
      exact behind.trans (List.suffix_cons _ _)
    · have behind := readLeading_suffix verbose false (trim verbose (text ++ ')' :: after))
      rwa [h] at behind
  obtain ⟨inner, blanks⟩ := exists_of_suffix _ late
  rw [trim_cut _ closing blanks]
  rw [blanks] at h
  split at h
  · rename_i caret
    obtain ⟨tail, rfl, rfl⟩ := (closing_cons after).eq_cons (by decide) caret
    exact readLeading_cut closing h
  · rename_i plain
    split
    · rename_i caret
      obtain ⟨tail, rfl, _⟩ := closing.eq_cons (by decide) caret
      exact absurd rfl (plain _)
    · exact readLeading_cut closing h

namespace ClassStep

variable {verbose : Bool} {enclosing enclosing' : List OpenClass} {openClass openClass' : OpenClass}

/-- As long as the class closes in front of the parenthesis, a step is the same there. -/
theorem cut (closing : Closing more) (h : ClassStep verbose enclosing openClass
      (text ++ ')' :: after) enclosing' openClass' (rest ++ ')' :: after))
    (closes : ']' ∈ rest) :
    ClassStep verbose enclosing openClass (text ++ more) enclosing' openClass' (rest ++ more) := by
  have within := (suffix_of_append rest h.suffix).subset closes
  cases h with
  | close mark around =>
    obtain ⟨tail, rfl, same⟩ := (closing_cons after).eq_cons (by decide) mark
    obtain rfl : rest = tail := List.append_cancel_right same
    exact .close rfl around
  | named mark named =>
    obtain ⟨tail, rfl, rfl⟩ := (closing_cons after).eq_cons (by decide) mark
    have within : ']' ∈ tail := by simpa using within
    rw [asciiClassAt?_append within] at named
    obtain ⟨⟨set, left⟩, found, same⟩ := Option.map_eq_some_iff.mp named
    obtain ⟨rfl, rfl⟩ := eq_of_left same
    have front : '[' :: tail ++ more = '[' :: (tail ++ more) := rfl
    refine .named front ?_
    rw [asciiClassAt?_append within, found]
    rfl
  | inner mark unnamed head =>
    obtain ⟨tail, rfl, rfl⟩ := (closing_cons after).eq_cons (by decide) mark
    have within : ']' ∈ tail := by simpa using within
    rw [asciiClassAt?_append within, Option.map_eq_none_iff] at unnamed
    have front : '[' :: tail ++ more = '[' :: (tail ++ more) := rfl
    refine .inner front ?_ (readClassHead_cut closing head)
    rw [asciiClassAt?_append within, unnamed]
    rfl
  | @operation c _ _ mark known =>
    have other : c ≠ ')' := by
      intro same
      rw [same] at known
      cases known
    obtain ⟨tail, rfl, later⟩ := (closing_cons after).eq_cons other mark
    obtain ⟨tail, rfl, same⟩ := (closing_cons after).eq_cons other later.symm
    obtain rfl : rest = tail := List.append_cancel_right same
    exact .operation rfl known
  | member starts read =>
    refine .member ?_ (readRange_cut closing read closes)
    rw [startsMember_append within] at starts ⊢
    exact starts

end ClassStep

/-- How members are read depends neither on what is behind the class nor on the fuel, as long
as there is more of it than text. -/
theorem readClassBody_cut {verbose : Bool} {enclosing : List OpenClass} {openClass : OpenClass}
    {fuel fuel' : Nat} {found : CharSet × Nat} (closing : Closing more)
    (h : readClassBody verbose enclosing openClass fuel (text ++ ')' :: after) =
      .ok (found, rest ++ ')' :: after)) (enough : text.length < fuel') :
    readClassBody verbose enclosing openClass fuel' (text ++ more) =
      .ok (found, rest ++ more) := by
  induction fuel generalizing fuel' enclosing openClass text with
  | zero => cases h
  | succ fuel ih =>
    obtain ⟨fuel', rfl⟩ := Nat.exists_eq_succ_of_ne_zero (Nat.ne_zero_of_lt enough)
    rw [readClassBody_eq_ok_iff]
    rcases readClassBody_eq_ok_iff.mp h with
      ⟨outermost, mark, same⟩ | ⟨enclosing', openClass', left, step, next⟩
    · exact .inl ⟨outermost, trim_cut (']' :: rest) closing mark, same⟩
    · have closes := close_of_readClassBody next
      obtain ⟨left, rfl⟩ := exists_of_suffix (']' :: rest) closes
      have member : ']' ∈ left :=
        (suffix_of_append (']' :: rest) closes).subset List.mem_cons_self
      obtain ⟨inner, blanks⟩ := exists_of_suffix left step.suffix
      have behind := trim_suffix verbose (text ++ ')' :: after)
      rw [blanks] at step behind
      have fewer := (suffix_of_append inner behind).length_le
      have shorter := step.shorter
      rw [List.length_append, List.length_append] at shorter
      rw [trim_cut inner closing blanks]
      exact .inr ⟨_, _, _, step.cut closing member, ih next (by omega)⟩

theorem readClass_cut {verbose : Bool} {found : Atom} (closing : Closing more)
    (h : readClass verbose (text ++ ')' :: after) = .ok (found, rest ++ ')' :: after)) :
    readClass verbose (text ++ more) = .ok (found, rest ++ more) := by
  unfold readClass at h ⊢
  cases head : readClassHead verbose (text ++ ')' :: after) with
  | mk openClass inside =>
    rw [head] at h
    obtain ⟨⟨⟨set, levels⟩, left⟩, read, h⟩ := bind_eq_ok h
    obtain ⟨rfl, rfl⟩ := Prod.mk.inj (Except.ok.inj h)
    obtain ⟨middle, rfl⟩ := exists_of_suffix _ (readClassBody_suffix read)
    have enough : middle.length < (middle ++ more).length + 1 := by
      rw [List.length_append]
      omega
    rw [readClassHead_cut closing head]
    dsimp only
    rw [readClassBody_cut closing read enough]
    rfl

end Lexeme

end Stencil.Regex
