import Mathlib.Data.List.TakeWhile
import Stencil.Regex.Lexeme.Count
/-!
# Blanks and counts at a seam

A reader takes the same from the front of a text whatever is put behind it, unless that
begins with a mark which belongs to what was read. Only blanks at the end of a verbose text
can run on into what is put behind it.
-/
namespace Stencil.Regex

namespace Lexeme

/-- What is left of text that was put behind what a reader takes: a later part of it, and
all of it if the seam is `kept`. -/
def Leaves (kept : Prop) (more tail : List Char) : Prop :=
  tail <:+ more ∧ (kept → tail = more)

theorem Leaves.all (kept : Prop) (more : List Char) : Leaves kept more more :=
  ⟨List.suffix_refl _, fun _ => rfl⟩

theorem Leaves.imp {kept kept' : Prop} {more tail : List Char} (h : Leaves kept more tail)
    (weaker : kept' → kept) : Leaves kept' more tail :=
  ⟨h.1, fun holds => h.2 (weaker holds)⟩

/-- Whatever is left of text behind a seam does not begin with a mark that would join it to
a lexeme before the seam: a question mark after a quantifier, or braces after a word edge. -/
def Apart (verbose : Bool) (more : List Char) : Prop :=
  ∀ tail, Leaves (verbose = false) more tail →
    tail.head? ≠ some '?' ∧ tail.head? ≠ some '\x7b'

/-- A text without such marks stays apart from anything. -/
theorem Apart.of_notMem {verbose : Bool} {more : List Char} (mark : '?' ∉ more)
    (brace : '\x7b' ∉ more) : Apart verbose more := by
  intro tail left
  have within {c : Char} (front : tail.head? = some c) : c ∈ more :=
    left.1.subset (List.mem_of_head? front)
  exact ⟨fun front => mark (within front), fun front => brace (within front)⟩

/-! ## Blanks -/

/-- Whether a character is passed over as a blank, and if so whether a comment goes on behind
it. -/
def blank? (verbose inComment : Bool) (c : Char) : Option Bool :=
  if inComment then some (c != '\n')
  else if verbose && c == '#' then some true
  else if verbose && isSpace c then some false
  else none

theorem skipBlanks_cons (inComment : Bool) (c : Char) (rest : List Char) :
    skipBlanks inComment (c :: rest) =
      match blank? true inComment c with
      | some next => skipBlanks next rest
      | none => c :: rest := by
  rw [skipBlanks, blank?]
  simp only [Bool.true_and]
  split
  · rfl
  split
  · rfl
  split <;> rfl

theorem takeSpelled_cons (verbose inComment : Bool) (test : Char → Bool) (c : Char)
    (rest : List Char) : takeSpelled verbose test inComment (c :: rest) =
      match blank? verbose inComment c with
      | some next => takeSpelled verbose test next rest
      | none =>
        if test c then
          (c :: (takeSpelled verbose test false rest).1, (takeSpelled verbose test false rest).2)
        else ([], c :: rest) := by
  rw [takeSpelled, blank?]
  split
  · rfl
  split
  · rfl
  split <;> rfl

/-- Blanks at the end of a text may run on into what is put behind it. -/
theorem trim_append (verbose : Bool) (text more : List Char) :
    ∃ tail, Leaves (verbose = false ∨ trim verbose text ≠ []) more tail ∧
      trim verbose (text ++ more) = trim verbose text ++ tail := by
  cases verbose with
  | false => exact ⟨more, .all _ _, rfl⟩
  | true =>
    have run (inComment : Bool) : ∃ tail, Leaves (skipBlanks inComment text ≠ []) more tail ∧
        skipBlanks inComment (text ++ more) = skipBlanks inComment text ++ tail := by
      induction text generalizing inComment with
      | nil =>
        refine ⟨skipBlanks inComment more, ⟨skipBlanks_suffix _ _, fun h => absurd rfl h⟩, rfl⟩
      | cons c text ih =>
        rw [List.cons_append, skipBlanks_cons, skipBlanks_cons]
        cases blank? true inComment c with
        | some next => exact ih next
        | none => exact ⟨more, .all _ _, rfl⟩
    obtain ⟨tail, left, same⟩ := run false
    exact ⟨tail, left.imp (fun h => h.resolve_left Bool.noConfusion), same⟩

theorem trim_append_of_ne_nil {verbose : Bool} {text : List Char}
    (h : trim verbose text ≠ []) (more : List Char) :
    trim verbose (text ++ more) = trim verbose text ++ more := by
  obtain ⟨tail, left, same⟩ := trim_append verbose text more
  rw [same, left.2 (.inr h)]

theorem trim_append_of_cons {verbose : Bool} {text rest : List Char} {c : Char}
    (h : trim verbose text = c :: rest) (more : List Char) :
    trim verbose (text ++ more) = c :: (rest ++ more) := by
  rw [trim_append_of_ne_nil (by simp [h]), h, List.cons_append]

private theorem blank?_start {verbose inComment : Bool} {c : Char}
    (h : blank? verbose inComment c = none) : blank? verbose false c = none := by
  unfold blank? at h ⊢
  split at h
  · cases h
  · rename_i outside
    rw [if_neg (by simp)]
    exact h

private theorem skipBlanks_of_cons {inComment : Bool} {text rest : List Char} {c : Char}
    (h : skipBlanks inComment text = c :: rest) : skipBlanks false (c :: rest) = c :: rest := by
  induction text generalizing inComment with
  | nil => cases h
  | cons d text ih =>
    rw [skipBlanks_cons] at h
    cases blank : blank? true inComment d with
    | some next =>
      rw [blank] at h
      exact ih h
    | none =>
      rw [blank] at h
      cases h
      rw [skipBlanks_cons, blank?_start blank]

/-- Blanks are taken off only once. -/
@[simp] theorem trim_trim (verbose : Bool) (text : List Char) :
    trim verbose (trim verbose text) = trim verbose text := by
  cases verbose with
  | false => rfl
  | true =>
    cases h : trim true text with
    | nil => rfl
    | cons c rest => exact skipBlanks_of_cons h

theorem dropWhile_append_of_cons {p : Char → Bool} {text rest : List Char} {c : Char}
    (h : text.dropWhile p = c :: rest) (more : List Char) :
    (text ++ more).dropWhile p = c :: (rest ++ more) ∧
      (text ++ more).takeWhile p = text.takeWhile p := by
  induction text with
  | nil => cases h
  | cons d text ih =>
    rw [List.dropWhile_cons] at h
    split at h
    · rename_i hd
      simp [hd, ih h]
    · rename_i hd
      cases h
      simp [hd]

theorem takeSpelled_append {verbose inComment : Bool} {test : Char → Bool}
    {text taken rest : List Char} {c : Char}
    (h : takeSpelled verbose test inComment text = (taken, c :: rest)) (more : List Char) :
    takeSpelled verbose test inComment (text ++ more) = (taken, c :: (rest ++ more)) := by
  induction text generalizing inComment taken with
  | nil => cases h
  | cons d text ih =>
    rw [takeSpelled_cons] at h
    rw [List.cons_append, takeSpelled_cons]
    cases blank : blank? verbose inComment d with
    | some next =>
      rw [blank] at h
      exact ih h
    | none =>
      rw [blank] at h
      dsimp only at h ⊢
      split at h
      · rename_i passes
        obtain ⟨rfl, left⟩ := Prod.mk.inj h
        rw [if_pos passes, ih (Prod.ext rfl left)]
      · rename_i fails
        rw [if_neg fails]
        cases h
        rfl

private theorem takeSpelled_of_skipBlanks {inComment : Bool} {test : Char → Bool}
    {text : List Char} (h : skipBlanks inComment text = []) :
    takeSpelled true test inComment text = ([], []) := by
  induction text generalizing inComment with
  | nil => rfl
  | cons c text ih =>
    rw [skipBlanks_cons] at h
    rw [takeSpelled_cons]
    cases blank : blank? true inComment c with
    | some next =>
      rw [blank] at h
      exact ih h
    | none =>
      rw [blank] at h
      cases h

/-- Nothing is spelled by blanks alone. -/
theorem takeSpelled_of_trim_eq_nil {verbose : Bool} {test : Char → Bool}
    {text : List Char} (h : trim verbose text = []) :
    takeSpelled verbose test false text = ([], []) := by
  cases verbose with
  | false =>
    obtain rfl : text = [] := h
    rfl
  | true => exact takeSpelled_of_skipBlanks h

/-! ## Counts -/

theorem readNumber_append {verbose : Bool} {text rest : List Char} {value : Nat} {c : Char}
    (h : readNumber verbose text = .ok (value, c :: rest)) (more : List Char) :
    readNumber verbose (text ++ more) = .ok (value, c :: (rest ++ more)) := by
  unfold readNumber at h ⊢
  cases front : text.dropWhile isSpace with
  | nil =>
    rw [front] at h
    cases h
  | cons d tail =>
    rw [front] at h
    rw [(dropWhile_append_of_cons front more).1]
    cases taken : takeSpelled verbose Char.isDigit false (d :: tail) with
    | mk digits behind =>
      rw [taken] at h
      dsimp only at h
      split at h
      · cases h
      · rename_i valid
        obtain ⟨rfl, left⟩ := Prod.mk.inj (Except.ok.inj h)
        cases behind with
        | nil => cases left
        | cons e behind =>
          have whole := takeSpelled_append taken more
          rw [List.cons_append] at whole
          rw [whole]
          dsimp only
          rw [if_neg valid, ← List.cons_append, (dropWhile_append_of_cons left more).1]

/-- The forms that bounds have, with what is read of each: an exact number, a least one, and
a least and a greatest one. -/
inductive BoundsAt (verbose : Bool) (text : List Char) : Bounds → List Char → Prop
  | exactly {least : Nat} {rest : List Char}
      (number : readNumber verbose (trim verbose text) = .ok (least, '\x7d' :: rest)) :
    BoundsAt verbose text ⟨least, some least⟩ rest
  | atLeast {least : Nat} {upper rest : List Char}
      (number : readNumber verbose (trim verbose text) = .ok (least, ',' :: upper))
      (closes : trim verbose upper = '\x7d' :: rest) :
    BoundsAt verbose text ⟨least, none⟩ rest
  | between {least most : Nat} {upper rest : List Char}
      (number : readNumber verbose (trim verbose text) = .ok (least, ',' :: upper))
      (number' : readNumber verbose (trim verbose upper) = .ok (most, '\x7d' :: rest))
      (ordered : least ≤ most) :
    BoundsAt verbose text ⟨least, some most⟩ rest

private theorem readNumber_brace (verbose : Bool) (text : List Char) :
    readNumber verbose ('\x7d' :: text) = .error .malformedCount := by
  have stays : isSpace '\x7d' = false := by decide
  simp [readNumber, takeSpelled, stays]

theorem readBounds_eq_ok_iff {verbose : Bool} {text rest : List Char} {bounds : Bounds} :
    readBounds verbose text = .ok (bounds, rest) ↔ BoundsAt verbose text bounds rest := by
  constructor
  · intro h
    obtain ⟨⟨least, left⟩, number, h⟩ := bind_eq_ok h
    dsimp only at h
    split at h
    · cases h
      exact .exactly number
    · split at h
      · rename_i closes
        cases h
        exact .atLeast number closes
      · obtain ⟨⟨most, behind⟩, number', h⟩ := bind_eq_ok h
        dsimp only at h
        split at h
        · split at h
          · rename_i ordered
            cases h
            exact .between number number' ordered
          · cases h
        · cases h
    · cases h
  · intro h
    cases h with
    | exactly number =>
      rw [readBounds, number]
      rfl
    | atLeast number closes =>
      simp only [readBounds, number, closes, bind, Except.bind]
    | between number number' ordered =>
      simp only [readBounds, number, bind, Except.bind]
      split
      · rename_i closes
        rw [closes, readNumber_brace] at number'
        cases number'
      · simp only [number', if_pos ordered]

theorem readBounds_append {verbose : Bool} {text rest : List Char} {bounds : Bounds}
    (h : readBounds verbose text = .ok (bounds, rest)) (more : List Char) :
    readBounds verbose (text ++ more) = .ok (bounds, rest ++ more) := by
  have longer {text left : List Char} {value : Nat} {c : Char}
      (number : readNumber verbose (trim verbose text) = .ok (value, c :: left)) :
      readNumber verbose (trim verbose (text ++ more)) = .ok (value, c :: (left ++ more)) := by
    have some : trim verbose text ≠ [] := by
      intro empty
      rw [empty] at number
      cases number
    rw [trim_append_of_ne_nil some]
    exact readNumber_append number more
  rw [readBounds_eq_ok_iff] at h ⊢
  cases h with
  | exactly number => exact .exactly (longer number)
  | atLeast number closes => exact .atLeast (longer number) (trim_append_of_cons closes more)
  | between number number' ordered => exact .between (longer number) (longer number') ordered

theorem quantify_append {bounds : Bounds} {text rest more : List Char} {lexeme : Lexeme}
    (h : quantify bounds text = (lexeme, rest)) (apart : text = [] → more.head? ≠ some '?') :
    quantify bounds (text ++ more) = (lexeme, rest ++ more) := by
  cases text with
  | nil =>
    cases h
    cases more with
    | nil => rfl
    | cons c more =>
      have hc : c ≠ '?' := fun same => apart rfl (by simp [same])
      rw [List.nil_append, quantify.eq_2 _ _ fun rest same => hc (List.cons.inj same).1]
  | cons c text =>
    by_cases hc : c = '?'
    · subst hc
      cases h
      rfl
    · rw [quantify.eq_2 _ _ fun rest same => hc (List.cons.inj same).1] at h
      cases h
      rw [List.cons_append, quantify.eq_2 _ _ fun rest same => hc (List.cons.inj same).1]

theorem readCount_append {verbose : Bool} {text rest more : List Char} {lexeme : Lexeme}
    (h : readCount verbose text = .ok (lexeme, rest)) (apart : rest = [] → Apart verbose more) :
    ∃ tail, Leaves (verbose = false ∨ rest ≠ []) more tail ∧
      readCount verbose (text ++ more) = .ok (lexeme, rest ++ tail) := by
  obtain ⟨⟨bounds, after⟩, read, same⟩ := map_eq_ok h
  dsimp only at same
  obtain ⟨tail, left, blanks⟩ := trim_append verbose after more
  have nonempty (found : rest ≠ []) : trim verbose after ≠ [] := by
    intro empty
    rw [empty] at same
    cases same
    exact found rfl
  refine ⟨tail, left.imp fun h => h.imp_right nonempty, ?_⟩
  rw [readCount, readBounds_append read]
  change Except.ok (quantify bounds (trim verbose (after ++ more))) = _
  rw [blanks, quantify_append same]
  intro empty
  rw [empty] at same
  cases same
  exact (apart rfl tail (left.imp .inl)).1

end Lexeme

end Stencil.Regex
