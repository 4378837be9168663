import Stencil.Regex.Pattern.Build
/-!
# Depth

What is built of an expression stays part of it, so nothing that was built on the way has more
levels of nesting than the whole.
-/
namespace Stencil.Regex

namespace Pattern

theorem depth_le_ofItems {items : List Pattern} {item : Pattern} (h : item ∈ items) :
    item.depth ≤ (ofItems items).depth := by
  induction items with
  | nil => cases h
  | cons latest earlier ih =>
    cases earlier with
    | nil =>
      rw [List.mem_singleton.mp h]
      exact Nat.le_refl _
    | cons other earlier =>
      change _ ≤ (sequence (ofItems (other :: earlier)) latest).depth
      rw [depth]
      rcases List.mem_cons.mp h with rfl | h
      · split <;> omega
      · have := ih h
        split <;> omega

theorem depth_le_ofBranches {branches : List Pattern} {branch : Pattern} (h : branch ∈ branches) :
    branch.depth ≤ (ofBranches branches).depth := by
  induction branches with
  | nil => cases h
  | cons latest earlier ih =>
    cases earlier with
    | nil =>
      rw [List.mem_singleton.mp h]
      exact Nat.le_refl _
    | cons other earlier =>
      change _ ≤ (choice (ofBranches (other :: earlier)) latest).depth
      rw [depth]
      rcases List.mem_cons.mp h with rfl | h
      · split <;> omega
      · have := ih h
        split <;> omega

end Pattern

/-- Some item or branch has some number of levels. -/
def Content.Reaches (content : Content) (levels : Nat) : Prop :=
  ∃ part, (part ∈ content.items ∨ part ∈ content.branches) ∧ levels ≤ part.depth

/-- Something that is built, in the innermost group or around it, has some number of levels. -/
def Builder.Reaches (builder : Builder) (levels : Nat) : Prop :=
  builder.content.Reaches levels ∨ ∃ frame ∈ builder.enclosing, frame.2.Reaches levels

namespace Content.Reaches

variable {content : Content} {levels : Nat}

theorem le_depth (h : content.Reaches levels) : levels ≤ content.toPattern.depth := by
  obtain ⟨part, item | branch, reaches⟩ := h
  · have inner : content.branch.depth ≤ content.toPattern.depth :=
      Pattern.depth_le_ofBranches List.mem_cons_self
    exact Nat.le_trans (Nat.le_trans reaches (Pattern.depth_le_ofItems item)) inner
  · exact Nat.le_trans reaches (Pattern.depth_le_ofBranches (List.mem_cons_of_mem _ branch))

theorem push (h : content.Reaches levels) (item : Pattern) : (content.push item).Reaches levels := by
  obtain ⟨part, member, reaches⟩ := h
  exact ⟨part, member.imp_left (List.mem_cons_of_mem _), reaches⟩

theorem nextBranch (h : content.Reaches levels) : content.nextBranch.Reaches levels := by
  obtain ⟨part, item | branch, reaches⟩ := h
  · have whole := Nat.le_trans reaches (Pattern.depth_le_ofItems item)
    exact ⟨content.branch, .inr List.mem_cons_self, whole⟩
  · exact ⟨part, .inr (List.mem_cons_of_mem _ branch), reaches⟩

theorem repeatLast (h : content.Reaches levels) {bounds : Bounds} {greedy : Bool}
    {content' : Content} (repeated : content.repeatLast bounds greedy = .ok content') :
    content'.Reaches levels := by
  obtain ⟨part, member, reaches⟩ := h
  obtain ⟨item, earlier, same, _, rfl⟩ := Content.repeatLast_eq_ok_iff.mp repeated
  rcases member with member | branch
  · rw [same] at member
    rcases List.mem_cons.mp member with rfl | member
    · refine ⟨.repetition bounds greedy part, .inl List.mem_cons_self, ?_⟩
      rw [Pattern.depth]
      omega
    · exact ⟨part, .inl (List.mem_cons_of_mem _ member), reaches⟩
  · exact ⟨part, .inr branch, reaches⟩

end Content.Reaches

namespace Builder.Reaches

variable {builder builder' : Builder} {levels : Nat}

theorem withContent (h : builder.Reaches levels) {content : Content}
    (kept : builder.content.Reaches levels → content.Reaches levels) :
    (builder.withContent content).Reaches levels :=
  h.imp_left kept

theorem openGroup (h : builder.Reaches levels) (kind : GroupKind) :
    (builder.openGroup kind).Reaches levels := by
  rcases h with inner | ⟨frame, member, outer⟩
  · exact .inr ⟨(kind, builder.content), List.mem_cons_self, inner⟩
  · exact .inr ⟨frame, List.mem_cons_of_mem _ member, outer⟩

theorem close (h : builder.Reaches levels) (closed : builder.step .close = .ok builder') :
    builder'.Reaches levels := by
  obtain ⟨kind, outer, enclosing, around, rfl⟩ := Builder.step_close_iff.mp closed
  rcases h with inner | ⟨frame, member, reaches⟩
  · have group : builder.content.toPattern.depth ≤
        (kind.wrap builder.content.toPattern).depth := by
      cases kind <;> exact Nat.le_add_left _ _
    exact .inl ⟨_, .inl List.mem_cons_self, Nat.le_trans inner.le_depth group⟩
  · rw [around] at member
    rcases List.mem_cons.mp member with rfl | member
    · exact .inl (reaches.push _)
    · exact .inr ⟨frame, member, reaches⟩

/-- No lexeme takes anything away. -/
theorem step (h : builder.Reaches levels) {lexeme : Lexeme}
    (taken : builder.step lexeme = .ok builder') : builder'.Reaches levels := by
  cases lexeme with
  | atom atom | flags change =>
    cases taken
    exact h.withContent fun inner => inner.push _
  | bar =>
    cases taken
    exact h.withContent fun inner => inner.nextBranch
  | openGroup change =>
    cases taken
    exact h.openGroup _
  | openCapture name =>
    cases name with
    | none =>
      cases taken
      exact h.openGroup _
    | some name =>
      obtain ⟨_, rfl⟩ := Builder.step_named_iff.mp taken
      exact h.openGroup .capture
  | quantifier bounds greedy =>
    obtain ⟨content, repeated, rfl⟩ := Builder.step_quantifier_iff.mp taken
    exact h.withContent fun inner => inner.repeatLast repeated
  | close => exact h.close taken

theorem foldlM (h : builder.Reaches levels) {lexemes : List Lexeme}
    (taken : lexemes.foldlM Builder.step builder = .ok builder') : builder'.Reaches levels := by
  have kept {before after : Builder} {lexeme : Lexeme} (first : before.step lexeme = .ok after)
      (reaches : before.Reaches levels) : after.Reaches levels := reaches.step first
  exact Builder.foldlM_keeps kept taken h

/-- What was built on the way is not deeper than the pattern that is built in the end. -/
theorem le_depth (h : builder.Reaches levels) (closed : builder.enclosing = []) :
    levels ≤ builder.content.toPattern.depth := by
  rcases h with inner | ⟨frame, member, _⟩
  · exact inner.le_depth
  · rw [closed] at member
    cases member

end Builder.Reaches

end Stencil.Regex
