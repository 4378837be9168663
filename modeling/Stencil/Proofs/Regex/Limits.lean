import Stencil.Proofs.Regex.Pieces
import Stencil.Regex.Node.Basic
/-!
# Limits on what an expression holds

Some facts hold only of expressions that keep to certain flags and items, or that have no
capture groups. A limit is kept by a pattern exactly if it is kept by the lexemes that the
pattern was built from.
-/
namespace Stencil.Regex

/-- Which flags may be switched, which items may stand, and whether groups may capture. -/
structure Limits where
  flags : FlagChange → Bool := fun _ => true
  atoms : Atom → Bool := fun _ => true
  captures : Bool := true

namespace Pattern

/-- Whether everything in a pattern is within some limits. -/
def keeps (limits : Limits) : Pattern → Bool
  | empty => true
  | atom item => limits.atoms item
  | flags change => limits.flags change
  | sequence first second | choice first second => first.keeps limits && second.keeps limits
  | capture inside => limits.captures && inside.keeps limits
  | group change inside => limits.flags change && inside.keeps limits
  | repetition _ _ inside => inside.keeps limits

variable (limits : Limits)

theorem keeps_ofItems (items : List Pattern) :
    (ofItems items).keeps limits = items.all (keeps limits) := by
  induction items with
  | nil => rfl
  | cons item earlier ih =>
    cases earlier with
    | nil => simp [ofItems]
    | cons last earlier =>
      change ((ofItems (last :: earlier)).keeps limits && item.keeps limits) = _
      rw [ih, Bool.and_comm]
      rfl

theorem keeps_ofBranches (branches : List Pattern) :
    (ofBranches branches).keeps limits = branches.all (keeps limits) := by
  induction branches with
  | nil => rfl
  | cons branch earlier ih =>
    cases earlier with
    | nil => simp [ofBranches]
    | cons last earlier =>
      change ((ofBranches (last :: earlier)).keeps limits && branch.keeps limits) = _
      rw [ih, Bool.and_comm]
      rfl

end Pattern

namespace Lexeme

def keeps (limits : Limits) : Lexeme → Bool
  | atom item => limits.atoms item
  | flags change | openGroup change => limits.flags change
  | openCapture _ => limits.captures
  | close | bar | quantifier _ _ => true

end Lexeme

namespace Content

def keeps (limits : Limits) (content : Content) : Bool :=
  content.branches.all (Pattern.keeps limits) && content.items.all (Pattern.keeps limits)

variable {limits : Limits}

theorem keeps_toPattern (content : Content) :
    content.toPattern.keeps limits = content.keeps limits := by
  rw [toPattern, Pattern.keeps_ofBranches, List.all_cons, branch, Pattern.keeps_ofItems, keeps,
    Bool.and_comm]

theorem keeps_push (content : Content) (item : Pattern) :
    (content.push item).keeps limits = (content.keeps limits && item.keeps limits) := by
  simp only [keeps, push, List.all_cons]
  ac_rfl

theorem keeps_nextBranch (content : Content) :
    content.nextBranch.keeps limits = content.keeps limits := by
  simp [keeps, nextBranch, branch, Pattern.keeps_ofItems, Bool.and_comm]

theorem Continues.keeps_eq {outer own whole : Content} (h : Continues outer own whole) :
    whole.keeps limits = (outer.keeps limits && own.keeps limits) := by
  cases h with
  | branch items =>
    simp only [keeps, List.all_append, List.all_nil, Bool.true_and]
    ac_rfl
  | branches later first items =>
    simp only [keeps, List.all_append, List.all_cons, List.all_nil, Pattern.keeps_ofItems]
    simp only [Bool.and_true]
    ac_rfl

theorem keeps_repeatLast {content content' : Content} {bounds : Bounds} {greedy : Bool}
    (h : content.repeatLast bounds greedy = .ok content') :
    content'.keeps limits = content.keeps limits := by
  obtain ⟨item, earlier, same, _, rfl⟩ := repeatLast_eq_ok_iff.mp h
  simp [keeps, same, Pattern.keeps]

end Content

namespace Builder

def keeps (limits : Limits) (builder : Builder) : Bool :=
  builder.content.keeps limits && builder.enclosing.all fun (kind, content) =>
    (kind.wrap .empty).keeps limits && content.keeps limits

variable {limits : Limits}

private theorem keeps_wrap (kind : GroupKind) (inside : Pattern) :
    (kind.wrap inside).keeps limits =
      ((kind.wrap .empty).keeps limits && inside.keeps limits) := by
  cases kind <;> simp [GroupKind.wrap, Pattern.keeps]

private theorem keeps_openGroup (builder : Builder) (kind : GroupKind) :
    (builder.openGroup kind).keeps limits =
      (builder.keeps limits && (kind.wrap .empty).keeps limits) := by
  simp only [keeps, openGroup, List.all_cons]
  change (true && _) = _
  rw [Bool.true_and]
  ac_rfl

/-- A step stays within limits exactly if its lexeme does. -/
theorem keeps_step {builder builder' : Builder} {lexeme : Lexeme}
    (h : builder.step lexeme = .ok builder') :
    builder'.keeps limits = (builder.keeps limits && lexeme.keeps limits) := by
  cases lexeme with
  | atom item =>
    cases h
    simp only [keeps, withContent, Content.keeps_push, Pattern.keeps, Lexeme.keeps]
    ac_rfl
  | flags change =>
    cases h
    simp only [keeps, withContent, Content.keeps_push, Pattern.keeps, Lexeme.keeps]
    ac_rfl
  | bar =>
    cases h
    simp [keeps, withContent, Content.keeps_nextBranch, Lexeme.keeps]
  | openGroup change =>
    cases h
    rw [keeps_openGroup]
    simp [GroupKind.wrap, Pattern.keeps, Lexeme.keeps]
  | openCapture name =>
    have opened : (builder.openGroup .capture).keeps limits =
        (builder.keeps limits && limits.captures) := by
      rw [keeps_openGroup]
      simp [GroupKind.wrap, Pattern.keeps]
    cases name with
    | none =>
      cases h
      exact opened
    | some name =>
      obtain ⟨_, rfl⟩ := step_named_iff.mp h
      exact opened
  | quantifier bounds greedy =>
    obtain ⟨content, repeated, rfl⟩ := step_quantifier_iff.mp h
    simp [keeps, withContent, Content.keeps_repeatLast repeated, Lexeme.keeps]
  | close =>
    obtain ⟨kind, outer, around, same, rfl⟩ := step_close_iff.mp h
    simp only [keeps, Content.keeps_push, same, List.all_cons, Lexeme.keeps, Bool.and_true]
    rw [keeps_wrap, Content.keeps_toPattern]
    ac_rfl

theorem keeps_foldlM {builder builder' : Builder} {lexemes : List Lexeme}
    (h : lexemes.foldlM step builder = .ok builder') :
    builder'.keeps limits = (builder.keeps limits && lexemes.all (Lexeme.keeps limits)) := by
  induction lexemes generalizing builder with
  | nil =>
    cases h
    simp
  | cons lexeme following ih =>
    rw [List.foldlM_cons] at h
    obtain ⟨next, first, h⟩ := bind_eq_ok h
    rw [ih h, keeps_step first, List.all_cons, Bool.and_assoc]

end Builder

/-- The lexemes of an expression keep to the limits that the expression keeps to. -/
theorem Progress.Reads.keeps {limits : Limits} {text : List Char} {lexemes : List Lexeme}
    {after : Progress} (h : Reads {} text lexemes after) (closed : after.builder.enclosing = []) :
    lexemes.all (Lexeme.keeps limits) = after.builder.content.toPattern.keeps limits := by
  have whole : after.builder.keeps limits = _ := Builder.keeps_foldlM h.built
  rw [Builder.keeps, closed] at whole
  change (_ && true) = (true && _) at whole
  rw [Bool.and_true, Bool.true_and] at whole
  rw [← whole, Content.keeps_toPattern]

/-! ## Plain flags -/

/-- Only the case of letters, lines and the dot are switched. -/
def FlagChange.isPlain (change : FlagChange) : Bool :=
  change.carriageReturn.isNone && change.swapGreed.isNone && change.unicode.isNone &&
    change.verbose.isNone

namespace Limits

def plain : Limits where
  flags := FlagChange.isPlain

end Limits

/-- If only plain flags are switched, blanks keep their meaning. -/
theorem Lexeme.blanks_of_plain {lexemes : List Lexeme} (h : lexemes.all (keeps .plain))
    {verbosity : Verbosity} (verbose : verbosity.verbose = false)
    (enclosing : ∀ outer ∈ verbosity.enclosing, outer = false) :
    (lexemes.foldl Verbosity.after verbosity).verbose = false := by
  have unchanged (change : FlagChange) (h : change.isPlain) : change.verbose = none := by
    simp only [FlagChange.isPlain, Bool.and_eq_true, Option.isNone_iff_eq_none] at h
    exact h.2
  induction lexemes generalizing verbosity with
  | nil => exact verbose
  | cons lexeme following ih =>
    rw [List.all_cons, Bool.and_eq_true] at h
    obtain ⟨plain, h⟩ := h
    cases lexeme with
    | atom atom | bar | quantifier bounds greedy => exact ih h verbose enclosing
    | flags change =>
      refine ih h ?_ enclosing
      simp [Verbosity.after, unchanged change plain, verbose]
    | openCapture name =>
      refine ih h verbose ?_
      simpa [Verbosity.after, verbose] using enclosing
    | openGroup change =>
      refine ih h ?_ ?_
      · simp [Verbosity.after, unchanged change plain, verbose]
      · simpa [Verbosity.after, verbose] using enclosing
    | close =>
      obtain ⟨verbose', _ | ⟨outer, around⟩⟩ := verbosity
      · exact ih h verbose enclosing
      · refine ih h (enclosing outer List.mem_cons_self) ?_
        intro other member
        exact enclosing other (List.mem_cons_of_mem _ member)

private theorem unicode_apply {change : FlagChange} (h : change.isPlain) (flags : Flags) :
    (flags.apply change).unicode = flags.unicode := by
  simp only [FlagChange.isPlain, Bool.and_eq_true, Option.isNone_iff_eq_none] at h
  simp [Flags.apply, h]

private theorem toNode_of_unicode {flags : Flags} (h : flags.unicode = true) (item : Atom) :
    ∃ node, item.toNode flags = .ok node := by
  have fits (members : CharSet) : members.fits flags.alphabet = true := by
    rw [Flags.alphabet, if_pos h]
    cases members <;> rfl
  cases item with
  | byte c => exact ⟨_, if_pos (by simp [h])⟩
  | set members levels => exact ⟨_, if_pos (fits members)⟩
  | anyCharacter => exact ⟨_, if_pos h⟩
  | character c | caret | dollar | textStart | textEnd | word edge => exact ⟨_, rfl⟩

/-- A pattern that keeps to the characters of all scripts has a meaning. -/
theorem Pattern.resolve_of_plain {pattern : Pattern} (plain : pattern.keeps .plain)
    {flags : Flags} (unicode : flags.unicode = true) (next : Nat) :
    ∃ resolved, pattern.resolve flags next = .ok resolved ∧ resolved.flags.unicode = true := by
  induction pattern generalizing flags next with
  | empty => exact ⟨_, rfl, unicode⟩
  | atom item =>
    obtain ⟨node, made⟩ := toNode_of_unicode unicode item
    refine ⟨⟨node, flags, next⟩, ?_, unicode⟩
    rw [resolve, made]
    rfl
  | flags change => exact ⟨_, rfl, (unicode_apply plain flags).trans unicode⟩
  | sequence first second ihFirst ihSecond | choice first second ihFirst ihSecond =>
    rw [keeps, Bool.and_eq_true] at plain
    obtain ⟨before, hBefore, unicode'⟩ := ihFirst plain.1 unicode next
    obtain ⟨after, hAfter, unicode''⟩ := ihSecond plain.2 unicode' before.next
    rw [resolve, hBefore]
    change ∃ resolved, (second.resolve before.flags before.next >>= fun after => _) = _ ∧ _
    rw [hAfter]
    exact ⟨_, rfl, unicode''⟩
  | capture inside ih =>
    obtain ⟨within, hWithin, _⟩ := ih plain unicode (next + 1)
    rw [resolve, hWithin]
    exact ⟨_, rfl, unicode⟩
  | group change inside ih =>
    rw [keeps, Bool.and_eq_true] at plain
    obtain ⟨within, hWithin, _⟩ := ih plain.2 ((unicode_apply plain.1 flags).trans unicode) next
    rw [resolve, hWithin]
    exact ⟨_, rfl, unicode⟩
  | repetition bounds greedy inside ih =>
    obtain ⟨within, hWithin, _⟩ := ih plain unicode next
    rw [resolve, hWithin]
    exact ⟨_, rfl, unicode⟩

end Stencil.Regex
