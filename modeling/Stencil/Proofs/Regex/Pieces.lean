import Stencil.Proofs.Regex.Seams.Stream
import Stencil.Regex.Pattern.Build
/-!
# Pieces of an expression

A text that is an expression on its own builds the same items within a larger one. What
it leaves behind is what stood before it, followed by what it builds alone; the groups
around it stay open as they were.
-/
namespace Stencil.Regex

/-- How far an expression is read: whether blanks mean anything there, and what is built. -/
structure Progress where
  verbosity : Verbosity := {}
  builder : Builder := {}

namespace Progress

/-- Reading a text leads from one state to another. -/
structure Reads (before : Progress) (text : List Char) (lexemes : List Lexeme)
    (after : Progress) : Prop where
  lexed : Lexeme.readAll before.verbosity text = .ok lexemes
  blanks : lexemes.foldl Verbosity.after before.verbosity = after.verbosity
  built : lexemes.foldlM Builder.step before.builder = .ok after.builder

theorem Reads.nil (before : Progress) : before.Reads [] [] before where
  lexed := Lexeme.readAll_nil _
  blanks := rfl
  built := rfl

end Progress

namespace Lexeme

/-- The name of the group that a lexeme opens. -/
def groupName? : Lexeme → Option String
  | openCapture name => name
  | _ => none

theorem apart_false {more : List Char} :
    Apart false more ↔ more.head? ≠ some '?' ∧ more.head? ≠ some '\x7b' := by
  constructor
  · intro apart
    exact apart more (.all _ _)
  · intro marks tail left
    rw [left.2 rfl]
    exact marks

/-- Only the front of a text decides whether it stays apart from what is before it. -/
theorem Apart.append {text more : List Char} (h : Apart false text) (h' : Apart false more) :
    Apart false (text ++ more) := by
  rw [apart_false] at h ⊢
  cases text with
  | nil => exact apart_false.mp h'
  | cons c text => simpa using h

theorem trim_of_readAll_nil {verbosity : Verbosity} {text : List Char}
    (h : readAll verbosity text = .ok []) : trim verbosity.verbose text = [] := by
  cases front : trim verbosity.verbose text with
  | nil => rfl
  | cons c rest =>
    cases found : read verbosity.verbose c rest with
    | error fault =>
      rw [readAll_of_error front found] at h
      cases h
    | ok result =>
      rw [readAll_of_ok front found] at h
      obtain ⟨following, _, same⟩ := map_eq_ok h
      cases same

theorem readAll_cons {verbosity : Verbosity} {text : List Char} {lexeme : Lexeme}
    {following : List Lexeme} (h : readAll verbosity text = .ok (lexeme :: following)) :
    ∃ c rest after, trim verbosity.verbose text = c :: rest ∧
      read verbosity.verbose c rest = .ok (lexeme, after) ∧
      readAll (verbosity.after lexeme) after = .ok following := by
  cases front : trim verbosity.verbose text with
  | nil =>
    rw [readAll_of_trim_eq_nil front] at h
    cases h
  | cons c rest =>
    cases found : read verbosity.verbose c rest with
    | error fault =>
      rw [readAll_of_error front found] at h
      cases h
    | ok result =>
      obtain ⟨first, after⟩ := result
      rw [readAll_of_ok front found] at h
      obtain ⟨others, further, same⟩ := map_eq_ok h
      cases same
      exact ⟨c, rest, after, rfl, found, further⟩

end Lexeme

namespace Progress

open Lexeme

/-- There is one state that a text leads to. -/
theorem Reads.unique {before after after' : Progress} {text : List Char}
    {lexemes lexemes' : List Lexeme} (h : before.Reads text lexemes after)
    (h' : before.Reads text lexemes' after') : after = after' := by
  cases h.lexed.symm.trans h'.lexed
  have blanks := h.blanks.symm.trans h'.blanks
  have built := Except.ok.inj (h.built.symm.trans h'.built)
  cases after
  cases blanks
  cases built
  rfl

/-- Text behind another is read on from where that one leads to. Only blanks at the end of a
verbose text run on into it. -/
theorem Reads.run_on {before middle : Progress} {text more : List Char} {lexemes : List Lexeme}
    (first : before.Reads text lexemes middle) (apart : Apart middle.verbosity.verbose more) :
    ∃ tail, Leaves (middle.verbosity.verbose = false) more tail ∧
      ∀ following after, middle.Reads tail following after →
        before.Reads (text ++ more) (lexemes ++ following) after := by
  have final := first.blanks
  obtain ⟨tail, left, whole⟩ := readAll_append first.lexed (by rwa [final])
  rw [final] at left whole
  refine ⟨tail, left, ?_⟩
  intro following after second
  refine ⟨?_, ?_, ?_⟩
  · rw [whole, second.lexed]
    rfl
  · rw [List.foldl_append, final, second.blanks]
  · rw [List.foldlM_append, first.built]
    exact second.built

theorem Reads.append {before middle after : Progress} {text more : List Char}
    {lexemes following : List Lexeme} (first : before.Reads text lexemes middle)
    (second : middle.Reads more following after) (plain : middle.verbosity.verbose = false)
    (apart : Apart false more) : before.Reads (text ++ more) (lexemes ++ following) after := by
  obtain ⟨tail, left, further⟩ := first.run_on (plain.symm ▸ apart)
  obtain rfl := left.2 plain
  exact further following after second

/-- One lexeme is read, and then the rest of the text. -/
theorem Reads.cons {before middle after : Progress} {c : Char} {rest more : List Char}
    {lexeme : Lexeme} {following : List Lexeme} (plain : before.verbosity.verbose = false)
    (found : read false c rest = .ok (lexeme, more))
    (further : middle.Reads more following after)
    (verbosity : middle.verbosity = before.verbosity.after lexeme)
    (builder : before.builder.step lexeme = .ok middle.builder) :
    before.Reads (c :: rest) (lexeme :: following) after := by
  refine ⟨?_, ?_, ?_⟩
  · have front : trim before.verbosity.verbose (c :: rest) = c :: rest := by rw [plain]; rfl
    rw [readAll_of_ok front (by rwa [plain]), ← verbosity, further.lexed]
    rfl
  · rw [List.foldl_cons, ← verbosity, further.blanks]
  · rw [List.foldlM_cons, builder]
    exact further.built

/-- A closing parenthesis closes the innermost group, also where blanks mean nothing. -/
theorem Reads.close {verbose outer : Bool} {around : List Bool} {kind : GroupKind}
    {inside content : Content} {enclosing : List (GroupKind × Content)} {names : List String}
    {rest : List Char} {following : List Lexeme} {after : Progress}
    (further : Reads
      ⟨⟨outer, around⟩, ⟨content.push (kind.wrap inside.toPattern), enclosing, names⟩⟩ rest
      following after) :
    Reads ⟨⟨verbose, outer :: around⟩, ⟨inside, (kind, content) :: enclosing, names⟩⟩
      (')' :: rest) (.close :: following) after where
  lexed := by
    rw [readAll_close]
    change (readAll ⟨outer, around⟩ rest).map _ = _
    rw [further.lexed]
    rfl
  blanks := further.blanks
  built := further.built

end Progress

/-! ## The groups around a piece -/

namespace Verbosity

/-- The same state with more groups around it. -/
def within (verbosity : Verbosity) (outer : List Bool) : Verbosity :=
  { verbosity with enclosing := verbosity.enclosing ++ outer }

end Verbosity

theorem after_within {builder builder' : Builder} {lexeme : Lexeme}
    (built : builder.step lexeme = .ok builder') {verbosity : Verbosity}
    (level : builder.enclosing.length = verbosity.enclosing.length) (outer : List Bool) :
    (verbosity.within outer).after lexeme = (verbosity.after lexeme).within outer ∧
      builder'.enclosing.length = (verbosity.after lexeme).enclosing.length := by
  cases lexeme with
  | atom atom | flags change | bar =>
    cases built
    exact ⟨rfl, level⟩
  | openGroup change =>
    cases built
    exact ⟨rfl, congrArg Nat.succ level⟩
  | openCapture name =>
    refine ⟨rfl, ?_⟩
    cases name with
    | none =>
      cases built
      exact congrArg Nat.succ level
    | some name =>
      obtain ⟨_, rfl⟩ := Builder.step_named_iff.mp built
      exact congrArg Nat.succ level
  | quantifier bounds greedy =>
    obtain ⟨content, _, rfl⟩ := Builder.step_quantifier_iff.mp built
    exact ⟨rfl, level⟩
  | close =>
    obtain ⟨verbose, enclosing⟩ := verbosity
    obtain ⟨kind, content, around, same, rfl⟩ := Builder.step_close_iff.mp built
    rw [same] at level
    cases enclosing with
    | nil => cases level
    | cons inner enclosing => exact ⟨rfl, Nat.succ.inj level⟩

/-- A text whose groups are its own is read in the same way within other groups. -/
theorem Lexeme.readAll_within {lexemes : List Lexeme} {builder builder' : Builder}
    {verbosity : Verbosity} {text : List Char} (h : readAll verbosity text = .ok lexemes)
    (built : lexemes.foldlM Builder.step builder = .ok builder')
    (level : builder.enclosing.length = verbosity.enclosing.length) (outer : List Bool) :
    readAll (verbosity.within outer) text = .ok lexemes ∧
      lexemes.foldl Verbosity.after (verbosity.within outer) =
        (lexemes.foldl Verbosity.after verbosity).within outer ∧
      builder'.enclosing.length = (lexemes.foldl Verbosity.after verbosity).enclosing.length := by
  induction lexemes generalizing verbosity builder text with
  | nil =>
    cases built
    have front := trim_of_readAll_nil h
    exact ⟨readAll_of_trim_eq_nil front, rfl, level⟩
  | cons lexeme following ih =>
    obtain ⟨c, rest, after, front, found, further⟩ := readAll_cons h
    rw [List.foldlM_cons] at built
    obtain ⟨next, step, built⟩ := bind_eq_ok built
    obtain ⟨same, level'⟩ := after_within step level outer
    obtain ⟨whole, final, level''⟩ := ih further built level'
    refine ⟨?_, ?_, level''⟩
    · have step : readAll (verbosity.within outer) text = _ := readAll_of_ok front found
      rw [step, same, whole]
      rfl
    · rw [List.foldl_cons, same, final, List.foldl_cons]

/-! ## What a piece adds -/

/-- One content is followed by another: the branch that is being read goes on with the
other's first branch, and its later branches come after that. -/
inductive Content.Continues (outer : Content) : Content → Content → Prop
  | branch (items : List Pattern) :
    Continues outer ⟨[], items⟩ ⟨outer.branches, items ++ outer.items⟩
  | branches (later : List Pattern) (first items : List Pattern) :
    Continues outer ⟨later ++ [.ofItems first], items⟩
      ⟨later ++ .ofItems (first ++ outer.items) :: outer.branches, items⟩

namespace Content.Continues

variable {outer own whole : Content}

theorem push (h : Continues outer own whole) (item : Pattern) :
    Continues outer (own.push item) (whole.push item) := by
  cases h with
  | branch items => exact .branch (item :: items)
  | branches later first items => exact .branches later first (item :: items)

theorem nextBranch (h : Continues outer own whole) :
    Continues outer own.nextBranch whole.nextBranch := by
  cases h with
  | branch items => exact .branches [] items []
  | branches later first items => exact .branches (.ofItems items :: later) first []

theorem repeatLast (h : Continues outer own whole) {bounds : Bounds} {greedy : Bool}
    {own' : Content} (repeated : own.repeatLast bounds greedy = .ok own') :
    ∃ whole', whole.repeatLast bounds greedy = .ok whole' ∧ Continues outer own' whole' := by
  obtain ⟨item, earlier, same, other, rfl⟩ := Content.repeatLast_eq_ok_iff.mp repeated
  cases h with
  | branch items =>
    subst same
    exact ⟨_, Content.repeatLast_eq_ok_iff.mpr ⟨item, _, rfl, other, rfl⟩, .branch _⟩
  | branches later first items =>
    subst same
    exact ⟨_, Content.repeatLast_eq_ok_iff.mpr ⟨item, _, rfl, other, rfl⟩,
      .branches later first _⟩

end Content.Continues

/-- What is open within a piece, and the same within a larger expression, where the bottom
content continues `outer` and the groups `around` it are open as well. -/
inductive Frames (outer : Content) (around : List (GroupKind × Content)) :
    Content → List (GroupKind × Content) → Content → List (GroupKind × Content) → Prop
  | bottom {own whole : Content} (h : Content.Continues outer own whole) :
    Frames outer around own [] whole around
  | nested {own whole : Content} {enclosing enclosing' : List (GroupKind × Content)}
      (kind : GroupKind) (content : Content)
      (h : Frames outer around own enclosing whole enclosing') :
    Frames outer around content ((kind, own) :: enclosing) content ((kind, whole) :: enclosing')

namespace Frames

variable {outer own whole : Content} {around enclosing enclosing' : List (GroupKind × Content)}

theorem push (h : Frames outer around own enclosing whole enclosing') (item : Pattern) :
    Frames outer around (own.push item) enclosing (whole.push item) enclosing' := by
  cases h with
  | bottom h => exact .bottom (h.push item)
  | nested kind content h => exact .nested kind _ h

theorem nextBranch (h : Frames outer around own enclosing whole enclosing') :
    Frames outer around own.nextBranch enclosing whole.nextBranch enclosing' := by
  cases h with
  | bottom h => exact .bottom h.nextBranch
  | nested kind content h => exact .nested kind _ h

theorem repeatLast (h : Frames outer around own enclosing whole enclosing') {bounds : Bounds}
    {greedy : Bool} {own' : Content} (repeated : own.repeatLast bounds greedy = .ok own') :
    ∃ whole', whole.repeatLast bounds greedy = .ok whole' ∧
      Frames outer around own' enclosing whole' enclosing' := by
  cases h with
  | bottom h =>
    obtain ⟨whole', same, h'⟩ := h.repeatLast repeated
    exact ⟨whole', same, .bottom h'⟩
  | nested kind content h => exact ⟨own', repeated, .nested kind _ h⟩

end Frames

namespace Builder

/-- A builder that reads a piece within a larger expression, beside the one that reads the
piece alone. -/
structure Within (outer own whole : Builder) : Prop where
  frames : Frames outer.content outer.enclosing own.content own.enclosing whole.content
    whole.enclosing
  names : whole.names = own.names ++ outer.names

theorem within_start (outer : Builder) : Within outer {} outer where
  frames := .bottom (.branch [])
  names := rfl

theorem names_step {builder builder' : Builder} {lexeme : Lexeme}
    (h : builder.step lexeme = .ok builder') :
    builder'.names = lexeme.groupName?.toList ++ builder.names := by
  cases lexeme with
  | atom atom | flags change | bar | openGroup change =>
    cases h
    rfl
  | openCapture name =>
    cases name with
    | none =>
      cases h
      rfl
    | some name =>
      obtain ⟨_, rfl⟩ := step_named_iff.mp h
      rfl
  | quantifier bounds greedy =>
    obtain ⟨content, _, rfl⟩ := step_quantifier_iff.mp h
    rfl
  | close =>
    obtain ⟨kind, outer, enclosing, _, rfl⟩ := step_close_iff.mp h
    rfl

theorem names_foldlM {builder builder' : Builder} {lexemes : List Lexeme}
    (h : lexemes.foldlM step builder = .ok builder') :
    builder'.names = (lexemes.filterMap Lexeme.groupName?).reverse ++ builder.names := by
  induction lexemes generalizing builder with
  | nil =>
    cases h
    rfl
  | cons lexeme following ih =>
    rw [List.foldlM_cons] at h
    obtain ⟨next, first, h⟩ := bind_eq_ok h
    rw [ih h, names_step first]
    cases name : lexeme.groupName? <;> simp [name]

/-- What one lexeme does to a piece it does within a larger expression, whose names are
others. -/
theorem Within.step {outer own whole own' : Builder} (h : Within outer own whole)
    {lexeme : Lexeme} (taken : own.step lexeme = .ok own')
    (fresh : ∀ name ∈ own'.names, name ∉ outer.names) :
    ∃ whole', whole.step lexeme = .ok whole' ∧ Within outer own' whole' := by
  obtain ⟨frames, names⟩ := h
  cases lexeme with
  | atom atom =>
    cases taken
    exact ⟨_, rfl, frames.push _, names⟩
  | flags change =>
    cases taken
    exact ⟨_, rfl, frames.push _, names⟩
  | bar =>
    cases taken
    exact ⟨_, rfl, frames.nextBranch, names⟩
  | openGroup change =>
    cases taken
    exact ⟨_, rfl, .nested _ _ frames, names⟩
  | openCapture name =>
    cases name with
    | none =>
      cases taken
      exact ⟨_, rfl, .nested _ _ frames, names⟩
    | some name =>
      obtain ⟨new, rfl⟩ := step_named_iff.mp taken
      have unused : name ∉ outer.names := fresh name List.mem_cons_self
      have new' : name ∉ whole.names := by simp [names, new, unused]
      exact ⟨_, step_named_iff.mpr ⟨new', rfl⟩, .nested _ _ frames, congrArg (name :: ·) names⟩
  | quantifier bounds greedy =>
    obtain ⟨content, repeated, rfl⟩ := step_quantifier_iff.mp taken
    obtain ⟨content', repeated', frames'⟩ := frames.repeatLast repeated
    exact ⟨_, step_quantifier_iff.mpr ⟨content', repeated', rfl⟩, frames', names⟩
  | close =>
    obtain ⟨content, enclosing, names'⟩ := own
    obtain ⟨content', enclosing', names''⟩ := whole
    cases frames with
    | bottom h => cases taken
    | nested kind content h =>
      cases taken
      exact ⟨_, rfl, h.push _, names⟩

theorem Within.foldlM {outer own whole own' : Builder} (h : Within outer own whole)
    {lexemes : List Lexeme} (taken : lexemes.foldlM Builder.step own = .ok own')
    (fresh : ∀ name ∈ own'.names, name ∉ outer.names) :
    ∃ whole', lexemes.foldlM Builder.step whole = .ok whole' ∧ Within outer own' whole' := by
  induction lexemes generalizing own whole with
  | nil =>
    cases taken
    exact ⟨whole, rfl, h⟩
  | cons lexeme following ih =>
    rw [List.foldlM_cons] at taken
    obtain ⟨next, first, taken⟩ := bind_eq_ok taken
    have earlier : next.names ⊆ own'.names := by
      rw [names_foldlM taken]
      exact List.subset_append_right _ _
    obtain ⟨middle, step, within⟩ := h.step first fun name h => fresh name (earlier h)
    obtain ⟨whole', others, within'⟩ := ih within taken
    refine ⟨whole', ?_, within'⟩
    rw [List.foldlM_cons, step]
    exact others

end Builder

namespace Progress

/-- A piece that closes its groups is read within an expression as it is alone. The groups
around it stay, its names are added, and what it builds is put behind what stood before. -/
theorem Reads.within {own before : Progress} {text : List Char} {lexemes : List Lexeme}
    (h : Reads {} text lexemes own) (closed : own.builder.enclosing = [])
    (plain : before.verbosity.verbose = false)
    (fresh : ∀ name ∈ own.builder.names, name ∉ before.builder.names) :
    ∃ content, before.builder.content.Continues own.builder.content content ∧
      before.Reads text lexemes
        ⟨⟨own.verbosity.verbose, before.verbosity.enclosing⟩,
          ⟨content, before.builder.enclosing, own.builder.names ++ before.builder.names⟩⟩ := by
  obtain ⟨lexed, blanks, built⟩ := h
  obtain ⟨⟨verbose, around⟩, outer⟩ := before
  obtain rfl : verbose = false := plain
  obtain ⟨lexed', blanks', level⟩ := Lexeme.readAll_within lexed built rfl around
  obtain ⟨⟨content, enclosing, names⟩, built', frames, same⟩ :=
    (Builder.within_start outer).foldlM built fresh
  rw [closed] at frames
  cases frames with
  | bottom continues =>
    cases same
    refine ⟨content, continues, lexed', ?_, built'⟩
    rw [blanks] at blanks' level
    rw [closed] at level
    have empty := List.length_eq_zero_iff.mp level.symm
    change lexemes.foldl Verbosity.after (Verbosity.within {} around) = _
    rw [blanks', Verbosity.within, empty]
    rfl

end Progress

theorem Content.Continues.eq_of_start {own whole : Content} (h : Continues {} own whole) :
    whole = own := by
  cases h with
  | branch items => simp
  | branches later first items => simp

/-! ## Expressions -/

/-- A text that closes its groups is an expression unless it is nested too deeply. -/
theorem Progress.Reads.read {text : List Char} {lexemes : List Lexeme} {after : Progress}
    (h : Reads {} text lexemes after) (closed : after.builder.enclosing = []) :
    Pattern.read text =
      if after.builder.content.toPattern.depth ≤ Pattern.depthLimit then
        .ok after.builder.content.toPattern
      else .error .tooDeep := by
  unfold Pattern.read Pattern.ofLexemes
  rw [h.lexed]
  change (lexemes.foldlM Builder.step {} >>= fun builder => _) = _
  rw [h.built]
  change (after.builder.finish >>= fun pattern => _) = _
  rw [Builder.finish, closed]
  rfl

theorem Pattern.reads_of_read {text : List Char} {pattern : Pattern}
    (h : read text = .ok pattern) : ∃ lexemes after, Progress.Reads {} text lexemes after ∧
      after.builder.enclosing = [] ∧ after.builder.content.toPattern = pattern := by
  obtain ⟨lexemes, lexed, h⟩ := bind_eq_ok h
  obtain ⟨builder, built, h⟩ := bind_eq_ok h
  obtain ⟨found, finished, h⟩ := bind_eq_ok h
  unfold Builder.finish at finished
  split at finished
  · rename_i closed
    cases finished
    split at h
    · cases h
      exact ⟨lexemes, ⟨_, builder⟩, ⟨lexed, rfl, built⟩, List.isEmpty_iff.mp closed, rfl⟩
    · cases h
  · cases finished

/-- No expression begins with a mark that belongs to what stands before it. -/
theorem Progress.Reads.apart {text : List Char} {lexemes : List Lexeme} {after : Progress}
    (h : Reads {} text lexemes after) : Lexeme.Apart false text := by
  rw [Lexeme.apart_false]
  cases text with
  | nil => simp
  | cons c rest =>
    cases lexemes with
    | nil =>
      have empty := Lexeme.trim_of_readAll_nil h.lexed
      cases empty
    | cons lexeme following =>
      obtain ⟨c', rest', more, front, found, _⟩ := Lexeme.readAll_cons h.lexed
      cases front
      have built := h.built
      rw [List.foldlM_cons] at built
      obtain ⟨next, step, _⟩ := bind_eq_ok built
      have quantified (bounds : Bounds) (text : List Char)
          (same : (Lexeme.quantify bounds text).1 = lexeme) : False := by
        unfold Lexeme.quantify at same
        split at same <;> subst same <;> cases step
      constructor
      · intro same
        obtain rfl : c = '?' := by simpa using same
        exact quantified .atMostOne rest (by rw [Except.ok.inj found])
      · intro same
        obtain rfl : c = '\x7b' := by simpa using same
        obtain ⟨⟨bounds, after⟩, _, same⟩ := map_eq_ok found
        dsimp only at same
        exact quantified bounds _ (by rw [same])

end Stencil.Regex
