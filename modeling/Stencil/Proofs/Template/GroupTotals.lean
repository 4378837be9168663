import Mathlib
import Stencil.Proofs.Compiled
import Stencil.Proofs.Template.Naming
/-!
# Totals of groups

Compiling compares two totals: the groups of the compiled expression and the slots of the
template. Where the fragments keep to themselves, the totals differ by as many groups as the
fragments have more or fewer than one each.
-/
namespace Stencil

/-! ## Logs -/

theorem Logged.forall_mem_log_bind {ε α β : Type} {P : Entry → Prop} {first : Logged ε α}
    {next : α → Logged ε β} (h : ∀ entry ∈ first.log, P entry)
    (h' : ∀ value, ∀ entry ∈ (next value).log, P entry) :
    ∀ entry ∈ (first >>= next).log, P entry := by
  cases outcome : first.outcome with
  | error fault =>
    rw [bind_of_error next outcome]
    exact h
  | ok value =>
    rw [bind_of_ok next outcome]
    exact List.forall_mem_append.mpr ⟨h, h' value⟩

namespace Template

/-- Reading a window never warns. -/
theorem level_of_mem_log (dictionary : Dictionary) (offset : Nat) (window : List Char) :
    ∀ entry ∈ (readWindow dictionary offset window).log, entry.level ≠ .warn := by
  have silent {α : Type} (value : α) :
      ∀ entry ∈ (pure value : Logged Fault α).log, entry.level ≠ .warn := List.forall_mem_nil _
  induction offset, window using readWindow.induct dictionary with
  | case1 offset =>
    rw [readWindow_nil]
    exact silent nil
  | case2 offset c rest text after cut ih =>
    rw [readWindow_of_literal cut]
    exact Logged.forall_mem_log_bind ih fun _ => silent _
  | case3 offset c rest name after cut stop known ih =>
    rw [readWindow_of_placeholder cut, if_pos known]
    refine List.forall_mem_cons.mpr ⟨by simp [Entry.level], ?_⟩
    exact Logged.forall_mem_log_bind ih fun _ => silent _
  | case4 offset c rest name after cut unknown =>
    rw [readWindow_of_placeholder cut, if_neg unknown]
    exact List.forall_mem_nil _
  | case5 offset c rest inside after cut close ihInside ihRest =>
    rw [readWindow_of_optional cut]
    refine List.forall_mem_cons.mpr ⟨by simp [Entry.level], ?_⟩
    refine Logged.forall_mem_log_bind ihInside fun _ => ?_
    exact Logged.forall_mem_log_bind ihRest fun _ => silent _
  | case6 offset c rest kind cut =>
    rw [readWindow_of_unclosed cut]
    exact List.forall_mem_nil _

end Template

namespace Compiled

/-- Compiling warns that the fragments do not bring one group each. -/
def Warns (pattern : String) (dictionary : Dictionary) (options : Options) : Prop :=
  ∃ entry ∈ (compile pattern dictionary options).log, entry.level = .warn ∧
    entry.title = "partials do not contribute exactly one capture group each"

/-- A template that compiles is warned of exactly if its two totals differ. -/
theorem warns_iff {pattern : String} {dictionary : Dictionary} {options : Options}
    {compiled : Compiled} (h : (compile pattern dictionary options).outcome = .ok compiled) :
    Warns pattern dictionary options ↔
      compiled.program.groupCount ≠ compiled.template.groupCount := by
  have reading : ∀ entry ∈ (Template.read dictionary pattern).log, entry.level ≠ .warn :=
    List.forall_mem_cons.mpr ⟨by simp [Entry.level], Template.level_of_mem_log _ _ _⟩
  rw [Warns, log_compile h]
  constructor
  · intro warns same
    obtain ⟨entry, member, level, _⟩ := warns
    rw [if_neg (not_not.mpr same), List.mem_cons, List.mem_append, List.mem_singleton] at member
    rcases member with rfl | member | rfl
    · cases level
    · exact reading entry member level
    · cases level
  · intro differ
    refine ⟨.groupsDiffer compiled.template.groupCount compiled.program.groupCount, ?_, rfl, rfl⟩
    rw [if_pos differ]
    apply List.mem_cons_of_mem
    apply List.mem_append_right
    exact List.mem_cons_of_mem _ (List.mem_singleton_self _)

end Compiled

/-! ## Totals -/

namespace Regex

/-- A text that is an expression on its own, that leaves blanks as they are behind it, and
whose last group, if it has any, is kept. -/
structure StandsAlone (text : List Char) : Prop where
  read : ∃ pattern, Pattern.read text = .ok pattern
  steady : IsSteady text
  kept : ∀ group ∈ (groupsOf text).getLast?, group.kept = true

/-- Compiled by itself such a text has the groups that it is written with. -/
theorem StandsAlone.groupCount {text : List Char} (h : StandsAlone text) {caseless : Bool}
    {sizeLimit : Option Nat} {program : Program}
    (compiled : Program.compile text caseless sizeLimit = .ok program) :
    program.groupCount = (groupsOf text).length := by
  obtain ⟨pattern, node, read, made, _, rfl⟩ := Program.compile_eq_ok_iff.mp compiled
  have kept := h.kept
  rw [groupsOf, read] at kept ⊢
  exact Pattern.lastGroup_of_kept_last made kept

end Regex

namespace Template

variable {template : Template} {dictionary : Dictionary} {options : Options}

namespace Owns

variable {content : Regex.Content}

end Owns

end Template

namespace Compiled

/-- A fragment without groups beside one with two. The groups that one lacks are those that the
other has too many, so no warning is given. -/
theorem silent_of_offset_groups :
    let fragment (name : String) : Option String :=
      if name = "a" then some "x" else if name = "b" then some "(y)(z)" else none
    let options : Options := { escapeLiterals := true }
    ∃ compiled, (compile "{a}{b}" { fragment } options).outcome = .ok compiled ∧
      ((Slot.placeholder "a").groups { fragment } options).length = 0 ∧
      ((Slot.placeholder "b").groups { fragment } options).length = 2 ∧
      ¬Warns "{a}{b}" { fragment } options := by
  intro fragment options
  let pattern : Regex.Pattern := .sequence (.sequence (.atom (.character 'x'))
    (.capture (.atom (.character 'y')))) (.capture (.atom (.character 'z')))
  let node : Regex.Node := .sequence (.sequence (.set .unicode (.ofRange 120 120))
    (.capture 1 (.set .unicode (.ofRange 121 121)))) (.capture 2 (.set .unicode (.ofRange 122 122)))
  let compiled : Compiled :=
    ⟨.placeholder "a" (.placeholder "b" .nil), "x(y)(z)", .ofNode node, options⟩
  have read : Regex.Pattern.read "x(y)(z)".toList = .ok pattern := by cbv
  have made : pattern.toNode {} = .ok node := by cbv
  have program : Regex.Program.compile "x(y)(z)".toList false none = .ok compiled.program :=
    Regex.Program.compile_eq_ok_iff.mpr ⟨pattern, node, read, made, by decide, rfl⟩
  have compiles : (compile "{a}{b}" { fragment } options).outcome = .ok compiled :=
    outcome_compile.mpr ⟨by cbv, rfl, by cbv, program⟩
  have totals : compiled.program.groupCount = compiled.template.groupCount := by decide
  refine ⟨compiled, compiles, by cbv, by cbv, ?_⟩
  intro warns
  exact (warns_iff compiles).mp warns totals

end Compiled

end Stencil
