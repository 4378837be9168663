import Stencil.Proofs.Template.Canonical
import Stencil.Template.Expression
import Stencil.Template.Fields
/-!
# How literal text is cut

A template can hold empty literals, and several literals in a row. Without the empty ones, and with
those in a row put together, it prints the same source, owns the same slots, becomes the same
expression and reads every list of captures alike. So templates that differ only in how their
literal text is cut cannot be told apart.
-/
namespace Stencil.Template

/-- Drops empty literals and puts together literals in a row, at every level. -/
def fused : Template → Template
  | nil => nil
  | literal text rest => if text = "" then rest.fused else prependLiteral text rest.fused
  | placeholder name rest => placeholder name rest.fused
  | optional inside rest => optional inside.fused rest.fused

/-- No literal is empty, and none stands right behind another. -/
def IsFused : Template → Prop
  | nil => True
  | literal text rest => text ≠ "" ∧ rest.startsLiteral = false ∧ rest.IsFused
  | placeholder _ rest => rest.IsFused
  | optional inside rest => inside.IsFused ∧ rest.IsFused

theorem IsFused.prependLiteral {text : String} {template : Template} (h : template.IsFused)
    (nonempty : text ≠ "") : (template.prependLiteral text).IsFused := by
  cases template with
  | literal more rest => exact ⟨by simp [nonempty], h.2⟩
  | nil | placeholder name rest | optional inside rest => exact ⟨nonempty, rfl, h⟩

theorem isFused_fused (template : Template) : template.fused.IsFused := by
  induction template with
  | nil => trivial
  | literal text rest ih =>
    rw [fused]
    split
    · exact ih
    · rename_i nonempty
      exact ih.prependLiteral nonempty
  | placeholder name rest ih => exact ih
  | optional inside rest ihInside ihRest => exact ⟨ihInside, ihRest⟩

/-- Where there is nothing to drop or to put together, the template stays as it is. -/
theorem IsFused.fused_eq {template : Template} (h : template.IsFused) :
    template.fused = template := by
  induction template with
  | nil => rfl
  | literal text rest ih =>
    obtain ⟨nonempty, apart, following⟩ := h
    rw [fused, if_neg nonempty, ih following, prependLiteral_of_apart text apart]
  | placeholder name rest ih => rw [fused, ih h]
  | optional inside rest ihInside ihRest => rw [fused, ihInside h.1, ihRest h.2]

/-! ## Templates that cannot be told apart -/

/-- Nothing that is made of a template tells these two from each other. -/
structure Alike (first second : Template) : Prop where
  characters : first.characters = second.characters
  groupCount : first.groupCount = second.groupCount
  fieldNames : first.fieldNames = second.fieldNames
  body : ∀ dictionary options, first.body dictionary options = second.body dictionary options
  deal : ∀ expected present captures,
    first.deal expected present captures = second.deal expected present captures

namespace Alike

variable {first second third inside inside' : Template}

theorem refl (template : Template) : Alike template template :=
  ⟨rfl, rfl, rfl, fun _ _ => rfl, fun _ _ _ => rfl⟩

theorem symm (h : Alike first second) : Alike second first where
  characters := h.characters.symm
  groupCount := h.groupCount.symm
  fieldNames := h.fieldNames.symm
  body dictionary options := (h.body dictionary options).symm
  deal expected present captures := (h.deal expected present captures).symm

theorem trans (h : Alike first second) (h' : Alike second third) : Alike first third where
  characters := h.characters.trans h'.characters
  groupCount := h.groupCount.trans h'.groupCount
  fieldNames := h.fieldNames.trans h'.fieldNames
  body dictionary options := (h.body dictionary options).trans (h'.body dictionary options)
  deal expected present captures :=
    (h.deal expected present captures).trans (h'.deal expected present captures)

theorem literal (text : String) (h : Alike first second) :
    Alike (literal text first) (literal text second) where
  characters := by rw [Template.characters, Template.characters, h.characters]
  groupCount := h.groupCount
  fieldNames := h.fieldNames
  body dictionary options := by rw [Template.body, Template.body, h.body]
  deal := h.deal

theorem placeholder (name : String) (h : Alike first second) :
    Alike (placeholder name first) (placeholder name second) where
  characters := by rw [Template.characters, Template.characters, h.characters]
  groupCount := by rw [Template.groupCount, Template.groupCount, h.groupCount]
  fieldNames := by rw [Template.fieldNames, Template.fieldNames, h.fieldNames]
  body dictionary options := by rw [Template.body, Template.body, h.body]
  deal expected present captures := by simp only [Template.deal, h.deal]

theorem optional (h : Alike inside inside') (h' : Alike first second) :
    Alike (optional inside first) (optional inside' second) where
  characters := by rw [Template.characters, Template.characters, h.characters, h'.characters]
  groupCount := by rw [Template.groupCount, Template.groupCount, h.groupCount, h'.groupCount]
  fieldNames := by rw [Template.fieldNames, Template.fieldNames, h.fieldNames, h'.fieldNames]
  body dictionary options := by rw [Template.body, Template.body, h.body, h'.body]
  deal expected present captures := by simp only [Template.deal, h.deal, h'.deal, h.groupCount]

end Alike

theorem literalExpression_append (options : Options) (text more : String) :
    literalExpression options (text ++ more) =
      literalExpression options text ++ literalExpression options more := by
  rw [literalExpression, literalExpression, literalExpression]
  split <;> simp

/-- An empty literal leaves no trace. -/
theorem alike_empty (template : Template) : Alike (literal "" template) template where
  characters := by simp [characters]
  groupCount := rfl
  fieldNames := rfl
  body dictionary options := by
    have none : literalExpression options "" = [] := by simp [literalExpression]
    rw [body, none]
    cases template.body dictionary options <;> rfl
  deal _ _ _ := rfl

/-- Text is printed and escaped a character at a time, so it does not matter where it is cut. -/
theorem alike_joined (text more : String) (template : Template) :
    Alike (literal (text ++ more) template) (literal text (literal more template)) where
  characters := by simp [characters]
  groupCount := rfl
  fieldNames := rfl
  body dictionary options := by
    rw [body, body, body, literalExpression_append]
    cases template.body dictionary options with
    | error missing => rfl
    | ok following => exact congrArg Except.ok (List.append_assoc _ _ _)
  deal _ _ _ := rfl

theorem alike_prependLiteral (text : String) (template : Template) :
    Alike (template.prependLiteral text) (literal text template) := by
  cases template with
  | literal more rest => exact alike_joined text more rest
  | nil | placeholder name rest | optional inside rest => exact .refl _

theorem alike_fused (template : Template) : Alike template.fused template := by
  induction template with
  | nil => exact .refl nil
  | literal text rest ih =>
    rw [fused]
    split
    · rename_i empty
      rw [empty]
      exact ih.trans (alike_empty rest).symm
    · exact (alike_prependLiteral text rest.fused).trans (ih.literal text)
  | placeholder name rest ih => exact ih.placeholder name
  | optional inside rest ihInside ihRest => exact ihInside.optional ihRest

/-- Templates that are the same once fused cannot be told apart. -/
theorem alike_of_fused_eq {first second : Template} (same : first.fused = second.fused) :
    Alike first second := by
  have fused := alike_fused second
  rw [← same] at fused
  exact (alike_fused first).symm.trans fused

/-- Templates that differ only in how their literal text is cut print the same source, have the
same groups and field names, become the same expression or miss the same fragment, and read every
list of captures alike: the same outcome, as many captures drawn, and the same log. -/
theorem unobservable_of_fused_eq :
    (∀ template : Template,
      template.fused.IsFused ∧ (template.IsFused → template.fused = template)) ∧
    ∀ first second : Template, first.fused = second.fused →
      (first.source = second.source ∧ first.groupCount = second.groupCount ∧
        first.fieldNames = second.fieldNames) ∧
      (∀ dictionary options,
        first.expression dictionary options = second.expression dictionary options) ∧
      ∀ captures, first.readCaptures captures = second.readCaptures captures ∧
        first.extract captures = second.extract captures ∧
        first.extractAll captures = second.extractAll captures := by
  refine ⟨fun template => ⟨template.isFused_fused, IsFused.fused_eq⟩, ?_⟩
  intro first second same
  have alike := alike_of_fused_eq same
  have dealt (captures : List (Option String)) :
      first.readCaptures captures = second.readCaptures captures := by
    rw [readCaptures, readCaptures, alike.groupCount, alike.deal]
  refine ⟨⟨congrArg String.ofList alike.characters, alike.groupCount, alike.fieldNames⟩, ?_, ?_⟩
  · intro dictionary options
    rw [expression, expression, alike.body]
  · intro captures
    refine ⟨dealt captures, ?_, ?_⟩
    · rw [extract, extract, dealt]
    · rw [extractAll, extractAll, dealt]

/-- Text that is escaped in one piece, in two, or with empty literals beside it. The captures run
out within the span, behind a skip that both log. -/
theorem unobservable_cut_in_span :
    let first := literal "a." (optional (literal "+" (placeholder "x" nil)) nil)
    let second := literal "" (literal "a" (literal "." (optional (literal "+" (literal ""
      (placeholder "x" (literal "" nil)))) (literal "" nil))))
    let dictionary : Dictionary := { fragment := fun name => if name = "x" then some "(x)" else none }
    first.fused = second.fused ∧ first.IsFused ∧ second.fused = first ∧
      second.source = "a.<+{x}>" ∧
      second.expression dictionary { anchored := true, escapeLiterals := true } =
        .ok "^(?:a\\.(\\+(x))?)$" ∧
      second.expression { fragment := fun _ => none } {} = .error ⟨"x"⟩ ∧
      second.extract [none] = ⟨[.skippedOptional 2], .error ⟨2, 1⟩⟩ := by
  intro first second dictionary
  have same : first.fused = second.fused := by decide
  have fusedFirst : first.IsFused := ⟨by decide, rfl, ⟨by decide, rfl, trivial⟩, trivial⟩
  obtain ⟨normal, alike⟩ := unobservable_of_fused_eq
  obtain ⟨⟨source, _, _⟩, expression, read⟩ := alike first second same
  refine ⟨same, fusedFirst, same.symm.trans ((normal first).2 fusedFirst), ?_, ?_, ?_, ?_⟩
  · exact source.symm.trans (by decide)
  · exact (expression _ _).symm.trans (by decide)
  · exact (expression _ _).symm.trans (by decide)
  · exact (read [none]).2.1.symm.trans rfl

end Stencil.Template
