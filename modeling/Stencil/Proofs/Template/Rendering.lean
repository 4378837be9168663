import Stencil.Proofs.Template.Writing
/-!
# Renderings

An input has a match exactly if part of it is a rendering of the template, and the fields of
the match are the values that were written there.
-/
namespace Stencil

/-- A reading with a value, as a field. -/
def Reading.field? (reading : Reading) : Option (String × List Char) :=
  reading.value.map fun value => (reading.name, value.toList)

namespace Template

/-- A template is rendered as some text, with the names and values of the placeholders that
are in it. -/
inductive Renders (rule : String → List Char) :
    Template → List (String × List Char) → List Char → Prop
  | nil : Renders rule nil [] []
  | literal {text : String} {rest : Template} {fields : List (String × List Char)}
      {more : List Char} (following : Renders rule rest fields more) :
    Renders rule (literal text rest) fields (text.toList ++ more)
  | placeholder {name : String} {rest : Template} {fields : List (String × List Char)}
      {value more : List Char} (matched : Regex.Matches (rule name) value)
      (following : Renders rule rest fields more) :
    Renders rule (placeholder name rest) ((name, value) :: fields) (value ++ more)
  | present {inside rest : Template} {fields others : List (String × List Char)}
      {text more : List Char} (within : Renders rule inside fields text)
      (following : Renders rule rest others more) :
    Renders rule (optional inside rest) (fields ++ others) (text ++ more)
  | absent {inside rest : Template} {fields : List (String × List Char)} {more : List Char}
      (following : Renders rule rest fields more) :
    Renders rule (optional inside rest) fields more

variable {template : Template} {rule : String → List Char} {text : List Char}

theorem Renders.written {fields : List (String × List Char)}
    (h : template.Renders rule fields text) : ∃ captures, template.Written rule captures text := by
  induction h with
  | nil => exact ⟨_, .nil⟩
  | literal _ ih =>
    obtain ⟨captures, written⟩ := ih
    exact ⟨_, .literal written⟩
  | placeholder matched _ ih =>
    obtain ⟨captures, written⟩ := ih
    exact ⟨_, .placeholder matched written⟩
  | present _ _ ihInside ihRest =>
    obtain ⟨captures, within⟩ := ihInside
    obtain ⟨others, written⟩ := ihRest
    exact ⟨_, .present within written⟩
  | absent _ ih =>
    obtain ⟨captures, written⟩ := ih
    exact ⟨_, .absent written⟩

/-- What is written of a template renders it with the fields that its captures give. -/
theorem Written.renders {captures : List (Option (List Char))}
    (h : template.Written rule captures text) :
    template.Renders rule
      ((template.readings true (captures.map (Option.map String.ofList))).filterMap Reading.field?)
      text := by
  induction h with
  | nil => exact .nil
  | literal _ ih => exact .literal ih
  | @placeholder name rest captures value more matched _ ih =>
    have own : Reading.field?
        ⟨name, if true then some (String.ofList value) else none⟩ = some (name, value) := by
      rw [if_pos rfl, Reading.field?, Option.map_some, String.toList_ofList]
    rw [List.map_cons, Option.map_some, readings, List.headD_cons,
      List.filterMap_cons_some own]
    exact .placeholder matched ih
  | @present inside rest captures others text more within _ ihInside ihRest =>
    have count : (captures.map (Option.map String.ofList)).length = inside.groupCount := by
      rw [List.length_map, within.length_captures]
    rw [List.map_cons, List.map_append, readings, List.filterMap_append]
    rw [List.tail_cons, List.take_left' count, List.drop_left' count]
    exact .present ihInside ihRest
  | @absent inside rest captures more _ ih =>
    have count : ((List.replicate inside.groupCount (none : Option (List Char))).map
        (Option.map String.ofList)).length = inside.groupCount := by
      rw [List.length_map, List.length_replicate]
    rw [List.map_cons, List.map_append, readings, List.filterMap_append]
    rw [List.tail_cons, List.drop_left' count]
    change Renders rule _ ((readings false inside _).filterMap Reading.field? ++ _) _
    have none : (inside.fieldNames.map fun name => (⟨name, none⟩ : Reading)).filterMap
        Reading.field? = [] := by
      rw [List.filterMap_map]
      exact List.filterMap_eq_nil_iff.mpr fun _ _ => rfl
    rw [readings_false, none]
    exact .absent ih

/-- Part of an input, or all of it if anchored, is a rendering. -/
def RendersIn (rule : String → List Char) (anchored : Bool) (template : Template)
    (fields : List (String × List Char)) (input : List Char) : Prop :=
  ∃ before text after, input = before ++ text ++ after ∧
    (anchored = true → before = [] ∧ after = []) ∧ template.Renders rule fields text

private theorem mem_fields {readings : List Reading} {name value : String} :
    (name, value.toList) ∈ readings.filterMap Reading.field? ↔ ⟨name, some value⟩ ∈ readings := by
  rw [List.mem_filterMap]
  constructor
  · intro holds
    rcases holds with ⟨⟨other, found⟩, member, same⟩
    obtain ⟨found', rfl, pair⟩ := Option.map_eq_some_iff.mp same
    obtain ⟨rfl, text⟩ := Prod.mk.inj pair
    obtain rfl := String.toList_inj.mp text
    exact member
  · intro member
    exact ⟨_, member, rfl⟩

end Template

namespace Compiled

variable {compiled : Compiled} {dictionary : Dictionary} {rule : String → List Char}

/-- An input matches exactly if it holds a rendering of the template, or is one if anchored.
Then parsing gives fields, and they are the values of such a rendering. -/
theorem parse_iff_rendersIn (built : compiled.IsBuiltFrom dictionary)
    (escaped : compiled.options.escapeLiterals = true)
    (cased : compiled.options.caseInsensitive = false)
    (distinct : compiled.template.fieldNames.Nodup)
    (rules : compiled.template.HasRules dictionary rule) (input : String) :
    ((compiled.parse input).outcome ≠ .error .noMatch ↔
      ∃ fields, compiled.template.RendersIn rule compiled.options.anchored fields input.toList) ∧
    ((compiled.parse input).outcome ≠ .error .noMatch →
      ∃ found, (compiled.parse input).outcome = .ok found) ∧
    ∀ found, (compiled.parse input).outcome = .ok found → ∃ fields,
      compiled.template.RendersIn rule compiled.options.anchored fields input.toList ∧
        ∀ name value, found[name]? = some value ↔ (name, value.toList) ∈ fields := by
  obtain ⟨made, captured⟩ := captures?_of_rules built escaped cased rules
  have matched := captured input
  cases result : (Regex.Automaton.ofNode (compiled.template.node rule
      compiled.options.anchored)).search input.toList with
  | none =>
    rw [result] at matched
    have outcome : (compiled.parse input).outcome = .error .noMatch := parse_of_no_match matched
    refine ⟨⟨?_, ?_⟩, ?_, ?_⟩
    · intro some
      exact absurd outcome some
    · intro holds
      rcases holds with ⟨fields, before, text, after, whole, ends, renders⟩
      obtain ⟨captures, written⟩ := renders.written
      obtain ⟨stop, found⟩ := Template.search_of_written rules made ends written
      rw [← whole, result] at found
      cases found
    · intro some
      exact absurd outcome some
    · intro found same
      cases outcome.symm.trans same
  | some stop =>
    obtain ⟨before, text, after, captures, whole, ends, written, groups⟩ :=
      Template.written_of_search rules made result
    rw [result, Option.map_some, groups] at matched
    have count : (captures.map (Option.map String.ofList)).length =
        compiled.template.groupCount := by
      rw [List.length_map, written.length_captures]
    have outcome := parse_of_captures matched count
    have rendersIn : compiled.template.RendersIn rule compiled.options.anchored _ input.toList :=
      ⟨before, text, after, whole, ends, written.renders⟩
    refine ⟨⟨?_, ?_⟩, ?_, ?_⟩
    · intro _
      exact ⟨_, rendersIn⟩
    · intro _ same
      cases outcome.symm.trans same
    · intro _
      exact ⟨_, outcome⟩
    · intro found same
      cases outcome.symm.trans same
      refine ⟨_, rendersIn, ?_⟩
      intro name value
      rw [Template.mem_fields]
      apply Fields.getElem?_ofReadings_of_nodup
      rw [Template.names_readings]
      exact distinct

private theorem matches_character (c : Char) {text : List Char}
    (read : Regex.Pattern.read text = .ok (.atom (.character c)))
    (made : (Regex.Pattern.atom (.character c)).toNode {} = .ok (.character c)) :
    Regex.Matches text [c] := by
  refine ⟨_, _, read, made, ({ place := .start [c] } : Regex.Attempt).past [c], ?_, rfl⟩
  exact Regex.Node.takes_character.mpr ⟨List.prefix_refl _, rfl⟩

/-- Text in front does not keep a template with an optional span from its match. -/
theorem parse_of_optional_span :
    let template := Template.placeholder "a" (.optional (.literal "-" (.placeholder "b" .nil)) .nil)
    let dictionary : Dictionary := ⟨fun _ => some "(x)", fun _ => true⟩
    ∃ compiled : Compiled, compiled.template = template ∧ compiled.IsBuiltFrom dictionary ∧
      (∃ found, (compiled.parse "y x-x").outcome = .ok found) := by
  intro template dictionary
  let pattern : Regex.Pattern := .sequence (.capture (.atom (.character 'x')))
    (.repetition .atMostOne true (.capture (.sequence (.atom (.character '-'))
      (.capture (.atom (.character 'x'))))))
  let node : Regex.Node := .sequence (.capture 1 (.character 'x'))
    (.repetition .atMostOne true (.capture 2 (.sequence (.character '-')
      (.capture 3 (.character 'x')))))
  let compiled : Compiled := ⟨template, "(x)(\\-(x))?", .ofNode node, { escapeLiterals := true }⟩
  have single : Regex.Pattern.read "x".toList = .ok (.atom (.character 'x')) := by cbv
  have built : compiled.IsBuiltFrom dictionary := by
    have read : Regex.Pattern.read "(x)(\\-(x))?".toList = .ok pattern := by cbv
    have made : pattern.toNode {} = .ok node := by cbv
    refine ⟨by cbv, ?_⟩
    exact Regex.Program.compile_eq_ok_iff.mpr ⟨pattern, node, read, made, by decide, rfl⟩
  have rules : template.HasRules dictionary fun _ => "x".toList := by
    intro name _
    refine ⟨rfl, ⟨_, single, rfl⟩, .capture (.atom (.character 'x')), by cbv⟩
  have matched : Regex.Matches "x".toList ['x'] := matches_character 'x' single (by cbv)
  have last : (Template.placeholder "b" .nil).Renders (fun _ => "x".toList) [("b", ['x'])] ['x'] :=
    .placeholder matched .nil
  have span : (Template.optional (.literal "-" (.placeholder "b" .nil)) .nil).Renders
      (fun _ => "x".toList) [("b", ['x'])] ['-', 'x'] := .present (.literal last) .nil
  have rendersIn : template.RendersIn (fun _ => "x".toList) false
      [("a", ['x']), ("b", ['x'])] "y x-x".toList := by
    refine ⟨['y', ' '], ['x', '-', 'x'], [], rfl, ?_, ?_⟩
    · intro anchored
      cases anchored
    · exact .placeholder matched span
  obtain ⟨some, fields, _⟩ := parse_iff_rendersIn built rfl rfl (by decide) rules "y x-x"
  exact ⟨compiled, rfl, built, fields (some.mpr ⟨_, rendersIn⟩)⟩

/-- A comment at the end of a fragment runs on over the parenthesis behind it, up to the end of
the line in the next fragment. Each is an expression on its own, but what matches then is no
rendering. -/
theorem parse_of_comment_run_on :
    let template := Template.placeholder "a" (.placeholder "b" .nil)
    let rule (name : String) : List Char := (if name = "a" then "(?x)x#" else "\nfoo").toList
    let dictionary : Dictionary :=
      ⟨fun name => some (if name = "a" then "((?x)x#)" else "(\nfoo)"), fun _ => true⟩
    template.fieldNames.Nodup ∧
    (∀ name, dictionary.fragment name = some (String.ofList ('(' :: rule name ++ [')'])) ∧
      ∃ pattern, Regex.Pattern.read (rule name) = .ok pattern ∧ pattern.keeps .bare) ∧
    ∃ compiled : Compiled, compiled.template = template ∧ compiled.IsBuiltFrom dictionary ∧
      compiled.options = { escapeLiterals := true } ∧
      (compiled.parse "xfoo").outcome ≠ .error .noMatch ∧
      ¬∃ fields, template.RendersIn rule false fields "xfoo".toList := by
  intro template rule dictionary
  let pattern : Regex.Pattern := .capture (.sequence (.sequence (.sequence (.sequence
    (.flags { verbose := some true }) (.atom (.character 'x'))) (.atom (.character 'f')))
    (.atom (.character 'o'))) (.atom (.character 'o')))
  let line : Regex.Pattern := .sequence (.sequence (.sequence (.atom (.character '\n'))
    (.atom (.character 'f'))) (.atom (.character 'o'))) (.atom (.character 'o'))
  let node : Regex.Node := .capture 1 (.ofItems ("xfoo".toList.map .character))
  let compiled : Compiled :=
    ⟨template, "((?x)x#)(\nfoo)", .ofNode node, { escapeLiterals := true }⟩
  have readLine : Regex.Pattern.read "\nfoo".toList = .ok line := by cbv
  have madeLine : line.toNode {} = .ok (.ofItems ("\nfoo".toList.map .character)) := by cbv
  have built : compiled.IsBuiltFrom dictionary := by
    have read : Regex.Pattern.read "((?x)x#)(\nfoo)".toList = .ok pattern := by cbv
    have made : pattern.toNode {} = .ok node := by cbv
    refine ⟨by cbv, ?_⟩
    exact Regex.Program.compile_eq_ok_iff.mpr ⟨pattern, node, read, made, by decide, rfl⟩
  refine ⟨by decide, ?_, compiled, rfl, built, rfl, ?_, ?_⟩
  · intro name
    dsimp only [dictionary, rule]
    by_cases first : name = "a"
    · rw [if_pos first, if_pos first]
      exact ⟨rfl, .sequence (.flags { verbose := some true }) (.atom (.character 'x')), by cbv, rfl⟩
    · rw [if_neg first, if_neg first]
      exact ⟨rfl, line, readLine, rfl⟩
  · intro noMatch
    have missing := captures?_of_no_match noMatch
    let start : Regex.Attempt := { place := .start "xfoo".toList }
    let middle : Regex.Attempt := start.openGroup.past "xfoo".toList
    have taken : node.Takes start (middle.closeGroup 1) := by
      refine ⟨middle, (Regex.Node.takes_ofItems _).mpr ?_, rfl⟩
      exact Regex.Node.takesAll_characters.mpr ⟨List.prefix_refl _, rfl⟩
    obtain ⟨stop, found⟩ : ∃ stop,
        (Regex.Automaton.ofNode node).search "xfoo".toList = some stop :=
      Regex.Node.search_of_takes (Regex.Node.takes_anywhere.mpr ⟨[], List.nil_prefix, taken⟩)
    rw [captures?, Regex.Program.captures?, Option.map_map] at missing
    change ((Regex.Automaton.ofNode node).search "xfoo".toList).map _ = none at missing
    rw [found] at missing
    cases missing
  · intro holds
    rcases holds with ⟨fields, before, text, after, whole, _, renders⟩
    change (Template.placeholder "a" (.placeholder "b" .nil)).Renders rule fields text at renders
    cases renders with
    | @placeholder _ _ _ value _ _ following =>
      cases following with
      | @placeholder _ _ _ value' more matched _ =>
        obtain ⟨_, _, read, made, stop, taken, _⟩ := matched
        cases readLine.symm.trans read
        cases madeLine.symm.trans made
        obtain ⟨front, _⟩ :=
          Regex.Node.takesAll_characters.mp ((Regex.Node.takes_ofItems _).mp taken)
        have member : '\n' ∈ value' := front.subset (by decide)
        have inside : '\n' ∈ "xfoo".toList := by
          rw [whole]
          simp [member]
        exact absurd inside (by decide)

end Compiled

end Stencil
