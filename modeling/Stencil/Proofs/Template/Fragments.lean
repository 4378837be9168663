import Stencil.Proofs.Compiled
import Stencil.Proofs.Template.Canonical
/-!
# Missing fragments

An expression cannot be written exactly if a placeholder has no fragment, and the first such
placeholder in slot order is the one that is reported. Reading lets no such placeholder pass if
the dictionary has a fragment for every name that a template may mention.
-/
namespace Stencil

namespace Template

variable {dictionary : Dictionary} {options : Options}

/-- The first name in slot order that has no fragment. -/
def missingName? (template : Template) (dictionary : Dictionary) : Option String :=
  template.fieldNames.find? fun name => (dictionary.fragment name).isNone

theorem missingName?_optional (inside rest : Template) (dictionary : Dictionary) :
    (optional inside rest).missingName? dictionary =
      (inside.missingName? dictionary).or (rest.missingName? dictionary) :=
  List.find?_append

theorem missingName?_eq_none_iff {template : Template} :
    template.missingName? dictionary = none ↔
      ∀ name ∈ template.fieldNames, ∃ fragment, dictionary.fragment name = some fragment := by
  simp [missingName?, Option.ne_none_iff_exists']

theorem exists_missingName?_iff {template : Template} :
    (∃ name, template.missingName? dictionary = some name) ↔
      ∃ name ∈ template.fieldNames, dictionary.fragment name = none := by
  simp [← Option.isSome_iff_exists, missingName?]

private theorem bind_eq_error_iff {ε α β : Type} {first : Except ε α} {next : α → Except ε β}
    {fault : ε} : (first >>= next) = .error fault ↔
      first = .error fault ∨ ∃ value, first = .ok value ∧ next value = .error fault := by
  cases first with
  | error other => simp [bind, Except.bind]
  | ok value => simp [bind, Except.bind]

/-- What is written at all misses nothing. -/
private theorem eq_none_of_written {α : Type} {outcome : Except MissingFragment α}
    {first : Option String}
    (h : ∀ {missing}, outcome = .error ⟨missing⟩ ↔ first = some missing) {text : α}
    (written : outcome = .ok text) : first = none := by
  apply Option.eq_none_iff_forall_ne_some.mpr
  intro name found
  have failed := h.mpr found
  rw [written] at failed
  cases failed

/-- The expression is written part by part, so the first part that cannot be written decides. -/
theorem body_eq_error_iff {template : Template} {missing : String} :
    template.body dictionary options = .error ⟨missing⟩ ↔
      template.missingName? dictionary = some missing := by
  induction template generalizing missing with
  | nil => simp [body, missingName?, fieldNames]
  | literal text rest ih =>
    rw [body, bind_eq_error_iff, ih]
    simp [missingName?, fieldNames]
  | placeholder name rest ih =>
    cases known : dictionary.fragment name with
    | none => simp [body, known, missingName?, fieldNames]
    | some fragment =>
      simp only [body, known, bind_eq_error_iff, ih]
      simp [missingName?, fieldNames, known]
  | optional inside rest ihInside ihRest =>
    rw [body, missingName?_optional]
    cases written : inside.body dictionary options with
    | error other =>
      obtain ⟨name⟩ := other
      have first := ihInside.mp written
      simp [bind_eq_error_iff, first]
    | ok text =>
      rw [eq_none_of_written ihInside written, Option.none_or]
      simp [bind_eq_error_iff, ihRest]

theorem body_of_fragments {template : Template} (options : Options)
    (fragments : ∀ name ∈ template.fieldNames,
      ∃ fragment, dictionary.fragment name = some fragment) :
    ∃ text, template.body dictionary options = .ok text := by
  have none := missingName?_eq_none_iff.mpr fragments
  cases written : template.body dictionary options with
  | ok text => exact ⟨text, rfl⟩
  | error missing =>
    have first := body_eq_error_iff.mp written
    rw [none] at first
    cases first

theorem expression_eq_error_iff {template : Template} {missing : String} :
    template.expression dictionary options = .error ⟨missing⟩ ↔
      template.missingName? dictionary = some missing := by
  rw [expression, bind_eq_error_iff, body_eq_error_iff]
  simp

/-- What is read mentions only names that the dictionary knows. -/
theorem Canonical.contains_of_mem {inside : Bool} {template : Template}
    (h : template.Canonical dictionary inside) :
    ∀ name ∈ template.fieldNames, IsName name.toList ∧ dictionary.contains name = true := by
  induction template generalizing inside with
  | nil => exact List.forall_mem_nil _
  | literal text rest ih => exact ih h.2.2
  | placeholder name rest ih => exact List.forall_mem_cons.mpr ⟨⟨h.1, h.2.1⟩, ih h.2.2⟩
  | optional within rest ihInside ihRest =>
    exact List.forall_mem_append.mpr ⟨ihInside h.1, ihRest h.2⟩

end Template

namespace Compiled

variable {pattern : String} {dictionary : Dictionary} {options : Options}

/-- A missing fragment is noticed exactly if a template is read that mentions it first. -/
theorem compile_eq_missing_iff {name : String} :
    (compile pattern dictionary options).outcome = .error (.missingFragment name) ↔
      ∃ template, (Template.read dictionary pattern).outcome = .ok template ∧
        template.missingName? dictionary = some name := by
  rw [outcome_compile_eq]
  cases read : (Template.read dictionary pattern).outcome with
  | error fault => simp
  | ok template =>
    cases written : template.expression dictionary options with
    | error missing =>
      obtain ⟨other⟩ := missing
      have first := Template.expression_eq_error_iff.mp written
      simp [written, first]
    | ok expression =>
      have present : template.missingName? dictionary ≠ some name := by
        intro first
        have failed : template.expression dictionary options = .error ⟨name⟩ :=
          Template.expression_eq_error_iff.mpr first
        rw [written] at failed
        cases failed
      cases made : Regex.Program.compile expression.toList options.caseInsensitive
          options.sizeLimit with
      | error fault => simp [written, made, present, Except.mapError, Except.map]
      | ok program => simp [written, made, present, Except.mapError, Except.map]

end Compiled

/-- An expression cannot be written exactly if a name has no fragment, and the first such name in
slot order is reported. Compiling reports it exactly where a template is read that mentions it,
and never if only names with a fragment may be mentioned. -/
theorem missing_fragment_iff (dictionary : Dictionary) (options : Options) :
    (∀ template : Template,
      ((∃ missing, template.expression dictionary options = .error missing) ↔
        ∃ name ∈ template.fieldNames, dictionary.fragment name = none) ∧
      ∀ name, template.expression dictionary options = .error ⟨name⟩ ↔
        template.missingName? dictionary = some name) ∧
    (dictionary.Lawful → ∀ pattern name,
      (Compiled.compile pattern dictionary options).outcome ≠ .error (.missingFragment name)) ∧
    ∀ pattern,
      ((∃ name, (Compiled.compile pattern dictionary options).outcome =
          .error (.missingFragment name)) ↔
        ∃ template, (Template.read dictionary pattern).outcome = .ok template ∧
          ∃ name ∈ template.fieldNames, dictionary.fragment name = none) ∧
      ∀ name, (Compiled.compile pattern dictionary options).outcome =
          .error (.missingFragment name) ↔
        ∃ template, (Template.read dictionary pattern).outcome = .ok template ∧
          template.missingName? dictionary = some name := by
  refine ⟨?_, ?_, ?_⟩
  · intro template
    refine ⟨?_, fun name => Template.expression_eq_error_iff⟩
    rw [← Template.exists_missingName?_iff]
    constructor
    · intro failed
      obtain ⟨⟨name⟩, failed⟩ := failed
      exact ⟨name, Template.expression_eq_error_iff.mp failed⟩
    · intro first
      obtain ⟨name, first⟩ := first
      exact ⟨⟨name⟩, Template.expression_eq_error_iff.mpr first⟩
  · intro lawful pattern name failed
    obtain ⟨template, read, first⟩ := Compiled.compile_eq_missing_iff.mp failed
    have canonical := (Template.canonical_of_read read).2
    obtain ⟨other, member, missing⟩ := Template.exists_missingName?_iff.mp ⟨name, first⟩
    have known := (canonical.contains_of_mem other member).2
    rw [lawful, missing] at known
    cases known
  · intro pattern
    refine ⟨?_, fun name => Compiled.compile_eq_missing_iff⟩
    constructor
    · intro failed
      obtain ⟨name, failed⟩ := failed
      obtain ⟨template, read, first⟩ := Compiled.compile_eq_missing_iff.mp failed
      exact ⟨template, read, Template.exists_missingName?_iff.mp ⟨name, first⟩⟩
    · intro missing
      obtain ⟨template, read, missing⟩ := missing
      obtain ⟨name, first⟩ := Template.exists_missingName?_iff.mpr missing
      exact ⟨name, Compiled.compile_eq_missing_iff.mpr ⟨template, read, first⟩⟩

/-- Of two promised names without a fragment, the one in the span is reported, as its slot is
first. Where templates may mention only names with fragments, nothing is reported. -/
theorem missing_fragment_in_span :
    let dictionary : Dictionary := { fragment := fun name => if name = "a" then some "(x)" else none }
    dictionary.Lawful ∧
      (Compiled.compile "{a}<{b}>" dictionary {}).outcome ≠ .error (.missingFragment "b") ∧
      (Compiled.compile "{a}<-<{c}>>{b}" (dictionary.promising ["b", "c"]) {}).outcome =
        .error (.missingFragment "c") := by
  intro dictionary
  have lawful : dictionary.Lawful := fun _ => rfl
  refine ⟨lawful, (missing_fragment_iff dictionary {}).2.1 lawful _ _, ?_⟩
  let template : Template := .placeholder "a"
    (.optional (.literal "-" (.optional (.placeholder "c" .nil) .nil)) (.placeholder "b" .nil))
  have printed : template.source = "{a}<-<{c}>>{b}" := by decide
  have named (c : Char) (lower : 'a' ≤ c ∧ c ≤ 'z') : Template.IsName [c] :=
    ⟨List.cons_ne_nil _ _, by simp [lower]⟩
  have dash : Template.IsLiteralText true "-".toList :=
    ⟨by decide, by decide, by decide, Template.bracesClose_of_notMem (by decide)⟩
  have canonical : template.Canonical (dictionary.promising ["b", "c"]) false :=
    ⟨named 'a' (by decide), rfl, ⟨dash, rfl, ⟨named 'c' (by decide), rfl, trivial⟩, trivial⟩,
      named 'b' (by decide), rfl, trivial⟩
  rw [← printed]
  apply (((missing_fragment_iff (dictionary.promising ["b", "c"]) {}).2.2 _).2 "c").mpr
  exact ⟨template, Template.read_source canonical, by decide⟩

end Stencil
