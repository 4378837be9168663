import Stencil.Proofs.Template.GroupTotals
/-!
# Shortage of captures

Dealing out captures fails only where there are fewer of them than slots, whatever spans took
part. A match has as many captures as the program has groups, so it is the compiled template that
falls short and never the input alone.
-/
namespace Stencil

namespace Template

/-- Where captures are short, all of them are drawn before that is noticed. -/
theorem outcome_deal_of_short (template : Template) (expected : Nat) (present : Bool)
    (drawn : Nat) {captures : List (Option String)}
    (short : captures.length < template.groupCount) :
    (template.deal expected present ⟨drawn, captures⟩).outcome =
      .error ⟨expected, drawn + captures.length⟩ := by
  induction template generalizing present drawn captures with
  | nil => exact absurd short (Nat.not_lt_zero _)
  | literal text rest ih => exact ih present drawn short
  | placeholder name rest ih =>
    cases captures with
    | nil => rfl
    | cons capture left =>
      have behind : left.length < rest.groupCount := by
        rw [groupCount, List.length_cons] at short
        omega
      have further := ih present (drawn + 1) behind
      rw [deal, List.length_cons, Nat.add_comm left.length, ← Nat.add_assoc]
      apply Logged.outcome_bind_eq_error.mpr
      refine .inr ⟨(capture, ⟨drawn + 1, left⟩), rfl, ?_⟩
      exact Logged.outcome_bind_eq_error.mpr (.inl further)
  | optional inside rest ihInside ihRest =>
    cases captures with
    | nil => rfl
    | cons capture left =>
      rw [groupCount, List.length_cons] at short
      rw [outcome_deal_optional, List.length_cons, Nat.add_comm left.length, ← Nat.add_assoc]
      apply Logged.outcome_bind_eq_error.mpr
      by_cases within : left.length < inside.groupCount
      · exact .inl (ihInside _ (drawn + 1) within)
      · -- the span has all its captures, so they are short behind it
        have own : (left.take inside.groupCount).length = inside.groupCount := by
          rw [List.length_take]
          omega
        have behind : (left.drop inside.groupCount).length < rest.groupCount := by
          rw [List.length_drop]
          omega
        have first := outcome_deal inside expected (present && capture.isSome) (drawn + 1) own
          (left.drop inside.groupCount)
        have second := ihRest present (drawn + 1 + inside.groupCount) behind
        rw [List.take_append_drop, own] at first
        refine .inr ⟨_, first, Logged.outcome_bind_eq_error.mpr (.inl ?_)⟩
        rw [second, List.length_drop]
        congr 2
        omega

variable {template : Template} {captures : List (Option String)}

theorem outcome_readCaptures_of_short (short : captures.length < template.groupCount) :
    (template.readCaptures captures).outcome =
      .error ⟨template.groupCount, captures.length⟩ := by
  have dealt := template.outcome_deal_of_short template.groupCount true 0 short
  rwa [Nat.zero_add] at dealt

/-- Captures beyond those of the slots are left. -/
theorem outcome_readCaptures_of_enough (enough : template.groupCount ≤ captures.length) :
    (template.readCaptures captures).outcome =
      .ok (template.readings true (captures.take template.groupCount),
        ⟨template.groupCount, captures.drop template.groupCount⟩) := by
  have own : (captures.take template.groupCount).length = template.groupCount := by
    rw [List.length_take]
    omega
  have dealt := template.outcome_deal template.groupCount true 0 own
    (captures.drop template.groupCount)
  rwa [List.take_append_drop, own, Nat.zero_add] at dealt

/-- The fields are made of the readings alone. -/
theorem outcome_extract_eq_map (template : Template) (captures : List (Option String)) :
    (template.extract captures).outcome =
      (template.readCaptures captures).outcome.map fun read => Fields.ofReadings read.1 :=
  Logged.outcome_map _ _

theorem outcome_extractAll_eq_map (template : Template) (captures : List (Option String)) :
    (template.extractAll captures).outcome =
      (template.readCaptures captures).outcome.map fun read => Fields.allOfReadings read.1 :=
  Logged.outcome_map _ _

/-- Whatever is made of the readings, there is none exactly if the captures are short. -/
private theorem readCaptures_map_eq_error_iff {α : Type} (view : List Reading → α)
    {shortage : CaptureShortage} :
    ((template.readCaptures captures).outcome.map fun read => view read.1) = .error shortage ↔
      captures.length < template.groupCount ∧
        shortage = ⟨template.groupCount, captures.length⟩ := by
  by_cases short : captures.length < template.groupCount
  · rw [outcome_readCaptures_of_short short]
    simp [Except.map, short, eq_comm]
  · rw [outcome_readCaptures_of_enough (Nat.le_of_not_lt short)]
    simp [Except.map, short]

theorem extract_eq_error_iff {shortage : CaptureShortage} :
    (template.extract captures).outcome = .error shortage ↔
      captures.length < template.groupCount ∧
        shortage = ⟨template.groupCount, captures.length⟩ := by
  rw [outcome_extract_eq_map]
  exact readCaptures_map_eq_error_iff Fields.ofReadings

end Template

namespace Compiled

variable {compiled : Compiled} {input : String} {shortage : CaptureShortage}

end Compiled

end Stencil
