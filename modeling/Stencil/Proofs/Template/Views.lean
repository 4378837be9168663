import Stencil.Proofs.Template.Numbering
/-!
# Two views of a match

One view of a match has the fields that took part, the other has them all. They fail together. A
field without a value in the second is missing from the first, and any other has the first of its
values in the second and the last of them in the first.
-/
namespace Stencil

namespace Template

/-- The fields that took part in a match beside all fields of the template. -/
structure ViewsAgree (template : Template) (captures : List (Option String))
    (fields : Fields String) (all : Fields (Option String)) : Prop where
  keys : ∀ name, name ∈ all ↔ name ∈ template.fieldNames
  absent : ∀ name ∈ all, name ∉ fields ↔ all[name]? = some none
  first : ∀ name ∈ all, all[name]? = some (template.matchedValues captures name).head?
  last : ∀ name, fields[name]? = (template.matchedValues captures name).getLast?
  once : ∀ name, (template.matched captures name).length = 1 → all[name]? = some fields[name]?

variable {template : Template} {captures : List (Option String)}

/-- A placeholder that took part has a value. -/
theorem length_matchedValues (name : String) :
    (template.matchedValues captures name).length = (template.matched captures name).length := by
  rw [matchedValues]
  apply List.filterMap_length_eq_length.mpr
  intro slot member
  exact (mem_matched.mp member).2.2.1

/-- Only the names in the template have values. -/
theorem mem_fieldNames_of_matchedValues {name : String}
    (valued : template.matchedValues captures name ≠ []) : name ∈ template.fieldNames := by
  obtain ⟨value, member⟩ := List.exists_mem_of_ne_nil _ valued
  obtain ⟨slot, matched, _⟩ := List.mem_filterMap.mp member
  obtain ⟨numbered, own, _⟩ := mem_matched.mp matched
  apply mem_fieldNames
  rw [← slots_numberFrom template 1 []]
  exact List.mem_map.mpr ⟨slot, numbered, own⟩

theorem viewsAgree_readings (template : Template) (captures : List (Option String)) :
    template.ViewsAgree captures
      (Fields.ofReadings (template.readings true (captures.take template.groupCount)))
      (Fields.allOfReadings (template.readings true (captures.take template.groupCount))) := by
  generalize source : template.readings true (captures.take template.groupCount) = readings
  have last (name : String) : (Fields.ofReadings readings)[name]? =
      (template.matchedValues captures name).getLast? := by
    rw [Fields.getElem?_ofReadings, ← source, valuesOf_readings]
  have first (name : String) : (Fields.allOfReadings readings)[name]? =
      if name ∈ template.fieldNames then some (template.matchedValues captures name).head?
      else none := by
    rw [Fields.getElem?_allOfReadings, ← source, names_readings, valuesOf_readings]
  have keys (name : String) : name ∈ Fields.allOfReadings readings ↔
      name ∈ template.fieldNames := by
    rw [Std.TreeMap.mem_iff_isSome_getElem?, first]
    split <;> simp_all
  refine ⟨keys, ?_, ?_, last, ?_⟩
  · intro name member
    rw [first, if_pos ((keys name).mp member), Std.TreeMap.mem_iff_isSome_getElem?, last,
      List.getLast?_isSome, not_not, Option.some_inj, List.head?_eq_none_iff]
  · intro name member
    rw [first, if_pos ((keys name).mp member)]
  · intro name single
    rw [← length_matchedValues] at single
    obtain ⟨value, only⟩ := List.length_eq_one_iff.mp single
    have valued : template.matchedValues captures name ≠ [] := by simp [only]
    rw [first, if_pos (mem_fieldNames_of_matchedValues valued), last, only]
    rfl

/-- Both views fail with the captures, or both are made of them. -/
theorem extract_or_fail (template : Template) (captures : List (Option String)) :
    (∃ shortage, (template.extract captures).outcome = .error shortage ∧
      (template.extractAll captures).outcome = .error shortage) ∨
    ∃ fields all, (template.extract captures).outcome = .ok fields ∧
      (template.extractAll captures).outcome = .ok all ∧
      template.ViewsAgree captures fields all := by
  rw [outcome_extract_eq_map, outcome_extractAll_eq_map]
  by_cases short : captures.length < template.groupCount
  · rw [outcome_readCaptures_of_short short]
    exact .inl ⟨_, rfl, rfl⟩
  · rw [outcome_readCaptures_of_enough (Nat.le_of_not_lt short)]
    exact .inr ⟨_, _, rfl, rfl, template.viewsAgree_readings captures⟩

end Template

/-- Both views of the captures fail alike or agree, and so do both ways of parsing an input. -/
theorem views_agree :
    (∀ (template : Template) (captures : List (Option String)),
      (∃ shortage, (template.extract captures).outcome = .error shortage ∧
        (template.extractAll captures).outcome = .error shortage) ∨
      ∃ fields all, (template.extract captures).outcome = .ok fields ∧
        (template.extractAll captures).outcome = .ok all ∧
        template.ViewsAgree captures fields all) ∧
    ∀ (compiled : Compiled) (input : String),
      ((compiled.parse input).outcome = .error .noMatch ∧
        (compiled.parseAll input).outcome = .error .noMatch) ∨
      (∃ shortage, (compiled.parse input).outcome = .error (.captureShortage shortage) ∧
        (compiled.parseAll input).outcome = .error (.captureShortage shortage)) ∨
      ∃ captures fields all, compiled.captures? input = some captures ∧
        (compiled.parse input).outcome = .ok fields ∧
        (compiled.parseAll input).outcome = .ok all ∧
        compiled.template.ViewsAgree captures fields all := by
  refine ⟨Template.extract_or_fail, ?_⟩
  intro compiled input
  rw [Compiled.outcome_parse, Compiled.outcome_parseAll]
  cases compiled.captures? input with
  | none => exact .inl ⟨rfl, rfl⟩
  | some captures =>
    dsimp only
    rcases compiled.template.extract_or_fail captures with ⟨shortage, first, second⟩ | found
    · rw [first, second]
      exact .inr (.inl ⟨shortage, rfl, rfl⟩)
    · obtain ⟨fields, all, first, second, agree⟩ := found
      rw [first, second]
      exact .inr (.inr ⟨captures, fields, all, rfl, rfl, rfl, agree⟩)

/-- Of two values of one name, the first view has the last and the second the first. A name in a
span that took no part is missing from the first view. -/
theorem views_of_repeated_name :
    let template : Template := .placeholder "a" (.optional (.placeholder "b" .nil)
      (.optional (.placeholder "a" .nil) .nil))
    let captures := [some "x", none, some "y", some "", some "z"]
    ∃ fields all, (template.extract captures).outcome = .ok fields ∧
      (template.extractAll captures).outcome = .ok all ∧
      (fields["a"]? = some "z" ∧ all["a"]? = some (some "x")) ∧
      ("b" ∉ fields ∧ all["b"]? = some none) := by
  intro template captures
  have enough : ¬ captures.length < template.groupCount := by decide
  rcases views_agree.1 template captures with ⟨shortage, failed, _⟩ | found
  · exact absurd (Template.extract_eq_error_iff.mp failed).1 enough
  · obtain ⟨fields, all, extracted, extractedAll, agree⟩ := found
    have named (name : String) (member : name ∈ template.fieldNames) : name ∈ all :=
      (agree.keys name).mpr member
    have missing : all["b"]? = some none := agree.first "b" (named "b" (by decide))
    refine ⟨fields, all, extracted, extractedAll, ⟨?_, ?_⟩, ?_, missing⟩
    · exact agree.last "a"
    · exact agree.first "a" (named "a" (by decide))
    · exact (agree.absent "b" (named "b" (by decide))).mpr missing

end Stencil
