import Stencil.Proofs.Regex.Closing
import Stencil.Proofs.Template.Nodes
/-!
# What is written of a template

A template is written with its literals as they are, a value for each placeholder, and each
optional span either with what is inside it or not at all. The node of the template takes
exactly such text, and it closes one group for each slot that is written.
-/
namespace Stencil

namespace Regex

theorem CharClass.contains_ofRange_self {c d : Char} :
    (ofRange c.toNat c.toNat).contains d = true ↔ d = c := by
  simp only [contains, ofRange, Text.inRanges, List.any_cons, List.any_nil, Bool.or_false,
    Bool.and_eq_true, decide_eq_true_eq]
  constructor
  · intro holds
    rcases holds with ⟨low, high⟩
    exact Char.toNat_inj.mp (Nat.le_antisymm high low)
  · intro same
    subst same
    exact ⟨Nat.le_refl _, Nat.le_refl _⟩

theorem Node.takes_character {c : Char} {start stop : Attempt} :
    (Node.character c).Takes start stop ↔ [c] <+: start.place.rest ∧ stop = start.past [c] := by
  rw [character, Takes, Attempt.move?_eq_some]
  constructor
  · intro holds
    rcases holds with ⟨d, member, front, same⟩
    obtain rfl := CharClass.contains_ofRange_self.mp member
    exact ⟨front, same⟩
  · intro holds
    rcases holds with ⟨front, same⟩
    exact ⟨c, CharClass.contains_ofRange_self.mpr rfl, front, same⟩

theorem Node.takesAll_characters {text : List Char} {start stop : Attempt} :
    TakesAll (text.map Node.character) start stop ↔
      text <+: start.place.rest ∧ stop = start.past text := by
  induction text generalizing start with
  | nil => simp [TakesAll]
  | cons c text ih =>
    rw [List.map_cons, TakesAll]
    constructor
    · intro holds
      rcases holds with ⟨middle, first, rest⟩
      obtain ⟨front, rfl⟩ := takes_character.mp first
      obtain ⟨later, rfl⟩ := ih.mp rest
      exact ⟨(Attempt.prefix_past front).mp later, (Attempt.past_append [c] text start).symm⟩
    · intro holds
      rcases holds with ⟨front, rfl⟩
      have early : [c] <+: start.place.rest := (List.prefix_append [c] text).trans front
      refine ⟨start.past [c], takes_character.mpr ⟨early, rfl⟩, ?_⟩
      refine ih.mpr ⟨(Attempt.prefix_past early).mpr front, ?_⟩
      exact Attempt.past_append [c] text start

end Regex

namespace Template

/-- A template is written as some text, with a capture for each slot: the value of a
placeholder, and all that is written of an optional span. Slots in a span that is left out
have none. -/
inductive Written (rule : String → List Char) :
    Template → List (Option (List Char)) → List Char → Prop
  | nil : Written rule nil [] []
  | literal {text : String} {rest : Template} {captures : List (Option (List Char))}
      {more : List Char} (following : Written rule rest captures more) :
    Written rule (literal text rest) captures (text.toList ++ more)
  | placeholder {name : String} {rest : Template} {captures : List (Option (List Char))}
      {value more : List Char} (matched : Regex.Matches (rule name) value)
      (following : Written rule rest captures more) :
    Written rule (placeholder name rest) (some value :: captures) (value ++ more)
  | present {inside rest : Template} {captures others : List (Option (List Char))}
      {text more : List Char} (within : Written rule inside captures text)
      (following : Written rule rest others more) :
    Written rule (optional inside rest) (some text :: (captures ++ others)) (text ++ more)
  | absent {inside rest : Template} {captures : List (Option (List Char))} {more : List Char}
      (following : Written rule rest captures more) :
    Written rule (optional inside rest)
      (none :: (List.replicate inside.groupCount none ++ captures)) more

variable {template : Template} {dictionary : Dictionary} {rule : String → List Char}
  {captures : List (Option (List Char))} {text : List Char}

theorem Written.length_captures (h : template.Written rule captures text) :
    captures.length = template.groupCount := by
  induction h with
  | nil => rfl
  | literal _ ih => exact ih
  | placeholder _ _ ih => rw [List.length_cons, ih, groupCount, Nat.add_comm]
  | present _ _ ihInside ihRest =>
    rw [List.length_cons, List.length_append, ihInside, ihRest, groupCount]
    omega
  | absent _ ih =>
    rw [List.length_cons, List.length_append, List.length_replicate, ih, groupCount]
    omega

/-- The nodes of a template take what is written of it, and close its groups. -/
theorem takes_of_written (rules : template.HasRules dictionary rule)
    (made : ∀ name ∈ template.fieldNames,
      ∃ node, (Regex.patternOf (rule name)).toNode {} = .ok node)
    (h : template.Written rule captures text) (next : Nat) {start : Regex.Attempt}
    (front : text <+: start.place.rest) :
    ∃ stop, Regex.Node.TakesAll (template.nodes rule next) start stop ∧
      Regex.Closes next captures text start stop := by
  induction h generalizing next start with
  | nil => exact ⟨start, rfl, .past next 0 front⟩
  | @literal text rest captures more following ih =>
    have early : text.toList <+: start.place.rest := (List.prefix_append _ _).trans front
    obtain ⟨stop, taken, closes⟩ := ih rules made next ((Regex.Attempt.prefix_past early).mpr front)
    refine ⟨stop, Regex.Node.takesAll_append.mpr ⟨start.past text.toList, ?_, taken⟩, ?_⟩
    · exact Regex.Node.takesAll_characters.mpr ⟨early, rfl⟩
    · exact (Regex.Closes.past next 0 early).append closes
  | @placeholder name rest captures value more matched following ih =>
    obtain ⟨⟨_, own⟩, rules⟩ := List.forall_mem_cons.mp rules
    obtain ⟨known, made⟩ := List.forall_mem_cons.mp made
    have early : value <+: start.place.rest := (List.prefix_append _ _).trans front
    have opened : value <+: start.openGroup.place.rest := early
    have group := (Regex.Closes.past (next + 1) 0 opened).capture
    have later : more <+: ((start.openGroup.past value).closeGroup next).place.rest := by
      rw [group.place]
      exact (Regex.Attempt.prefix_past early).mpr front
    obtain ⟨stop, taken, closes⟩ := ih rules made (next + 1) later
    refine ⟨stop, ⟨_, ⟨start.openGroup.past value, ?_, rfl⟩, taken⟩, group.append closes⟩
    exact (own.takes_nodeOf known).mpr ⟨value, early, rfl, matched⟩
  | @present inside rest captures others text more within following ihInside ihRest =>
    obtain ⟨rulesInside, rulesRest⟩ := List.forall_mem_append.mp rules
    obtain ⟨madeInside, madeRest⟩ := List.forall_mem_append.mp made
    have early : text <+: start.place.rest := (List.prefix_append _ _).trans front
    have opened : text <+: start.openGroup.place.rest := early
    obtain ⟨middle, inner, closes⟩ := ihInside rulesInside madeInside (next + 1) opened
    have group := closes.capture
    have count : (some text :: captures).length = 1 + inside.groupCount := by
      rw [List.length_cons, within.length_captures, Nat.add_comm]
    have later : more <+: (middle.closeGroup next).place.rest := by
      rw [group.place]
      exact (Regex.Attempt.prefix_past early).mpr front
    obtain ⟨stop, taken, closes'⟩ :=
      ihRest rulesRest madeRest (next + (1 + inside.groupCount)) later
    rw [← count] at closes'
    refine ⟨stop, ⟨middle.closeGroup next, ?_, taken⟩, group.append closes'⟩
    exact Regex.Node.takes_atMostOne.mpr (.inr ⟨middle,
      (Regex.Node.takes_ofItems _).mpr inner, rfl⟩)
  | @absent inside rest captures more following ih =>
    obtain ⟨_, rulesRest⟩ := List.forall_mem_append.mp rules
    obtain ⟨_, madeRest⟩ := List.forall_mem_append.mp made
    obtain ⟨stop, taken, closes⟩ := ih rulesRest madeRest (next + (1 + inside.groupCount)) front
    refine ⟨stop, ⟨start, Regex.Node.takes_atMostOne.mpr (.inl rfl), taken⟩, ?_⟩
    exact closes.skip inside.groupCount

/-- What the nodes of a template take is written of it. -/
theorem written_of_takes (rules : template.HasRules dictionary rule)
    (made : ∀ name ∈ template.fieldNames,
      ∃ node, (Regex.patternOf (rule name)).toNode {} = .ok node) {next : Nat}
    {start stop : Regex.Attempt}
    (h : Regex.Node.TakesAll (template.nodes rule next) start stop) :
    ∃ captures text, template.Written rule captures text ∧
      Regex.Closes next captures text start stop := by
  induction template generalizing next start stop with
  | nil =>
    obtain rfl : stop = start := h
    exact ⟨[], [], .nil, .past next 0 List.nil_prefix⟩
  | literal text rest ih =>
    obtain ⟨middle, first, taken⟩ := Regex.Node.takesAll_append.mp h
    obtain ⟨front, rfl⟩ := Regex.Node.takesAll_characters.mp first
    obtain ⟨captures, more, written, closes⟩ := ih rules made taken
    exact ⟨captures, _, .literal written, (Regex.Closes.past next 0 front).append closes⟩
  | placeholder name rest ih =>
    obtain ⟨⟨_, own⟩, rules⟩ := List.forall_mem_cons.mp rules
    obtain ⟨known, made⟩ := List.forall_mem_cons.mp made
    obtain ⟨_, ⟨middle, inner, rfl⟩, taken⟩ := h
    obtain ⟨value, front, rfl, matched⟩ := (own.takes_nodeOf known).mp inner
    obtain ⟨captures, more, written, closes⟩ := ih rules made taken
    have group := (Regex.Closes.past (next + 1) 0 front).capture
    exact ⟨_, _, .placeholder matched written, group.append closes⟩
  | optional inside rest ihInside ihRest =>
    obtain ⟨rulesInside, rulesRest⟩ := List.forall_mem_append.mp rules
    obtain ⟨madeInside, madeRest⟩ := List.forall_mem_append.mp made
    obtain ⟨place, first, taken⟩ := h
    obtain ⟨others, more, written, closes⟩ := ihRest rulesRest madeRest taken
    rcases Regex.Node.takes_atMostOne.mp first with rfl | ⟨middle, inner, rfl⟩
    · exact ⟨_, more, .absent written, closes.skip inside.groupCount⟩
    · obtain ⟨captures, text, within, closes'⟩ :=
        ihInside rulesInside madeInside ((Regex.Node.takes_ofItems _).mp inner)
      have count : (some text :: captures).length = 1 + inside.groupCount := by
        rw [List.length_cons, within.length_captures, Nat.add_comm]
      rw [← count] at closes
      exact ⟨_, _, .present within written, closes'.capture.append closes⟩

/-- Anchors hold a match to the ends of the text. -/
theorem takes_node {anchored : Bool} {start stop : Regex.Attempt} :
    (template.node rule anchored).Takes start stop ↔
      Regex.Node.TakesAll (template.nodes rule 1) start stop ∧
        (anchored = true → start.place.previous = none ∧ stop.place.rest = []) := by
  cases anchored with
  | false =>
    rw [← Regex.Node.takes_ofItems]
    constructor
    · intro taken
      exact ⟨taken, fun h => nomatch h⟩
    · intro taken
      exact taken.1
  | true =>
    change (((Regex.Node.assertion .textStart).andThen
      (.ofItems (template.nodes rule 1))).andThen (.assertion .textEnd)).Takes start stop ↔ _
    simp only [Regex.Node.takes_andThen, Regex.Node.takes_ofItems, Regex.Node.Takes,
      Regex.Assertion.holdsAt, Option.isNone_iff_eq_none, List.isEmpty_iff]
    constructor
    · intro holds
      rcases holds with ⟨middle, ⟨_, ⟨first, rfl⟩, taken⟩, last, rfl⟩
      exact ⟨taken, fun _ => ⟨first, last⟩⟩
    · intro holds
      rcases holds with ⟨taken, ends⟩
      obtain ⟨first, last⟩ := ends trivial
      exact ⟨stop, ⟨start, ⟨first, rfl⟩, taken⟩, last, rfl⟩

/-- A match of the node is something written within the input, up to both ends if anchored,
and its groups are the captures. -/
theorem written_of_search (rules : template.HasRules dictionary rule)
    (made : ∀ name ∈ template.fieldNames,
      ∃ node, (Regex.patternOf (rule name)).toNode {} = .ok node) {anchored : Bool}
    {input : List Char} {stop : Regex.Attempt}
    (h : (Regex.Automaton.ofNode (template.node rule anchored)).search input = some stop) :
    ∃ before text after captures, input = before ++ text ++ after ∧
      (anchored = true → before = [] ∧ after = []) ∧ template.Written rule captures text ∧
      (List.range' 1 template.groupCount).map stop.group? = captures := by
  obtain ⟨before, front, taken⟩ := Regex.Node.takes_anywhere.mp (Regex.Node.takes_of_search h)
  obtain ⟨taken, ends⟩ := takes_node.mp taken
  obtain ⟨captures, text, written, closes⟩ := written_of_takes rules made taken
  obtain ⟨rest, whole⟩ := front
  obtain rfl : before ++ rest = input := whole
  have place : (({ place := .start (before ++ rest) } : Regex.Attempt).past before).place =
      ⟨before.length, before.getLast?, rest⟩ := Regex.Place.past_start before rest
  have front := closes.front
  rw [place] at front
  obtain ⟨after, rfl⟩ : ∃ after, text ++ after = rest := front
  refine ⟨before, text, after, captures, (List.append_assoc ..).symm, ?_, written, ?_⟩
  · intro anchors
    obtain ⟨first, last⟩ := ends anchors
    rw [place, List.getLast?_eq_none_iff] at first
    rw [closes.place, place] at last
    change (text ++ after).drop text.length = [] at last
    rw [List.drop_left] at last
    exact ⟨first, last⟩
  · rw [← written.length_captures]
    exact closes.map_group? rfl

/-- Wherever something is written in an input, the node has a match. -/
theorem search_of_written (rules : template.HasRules dictionary rule)
    (made : ∀ name ∈ template.fieldNames,
      ∃ node, (Regex.patternOf (rule name)).toNode {} = .ok node) {anchored : Bool}
    {before text after : List Char} {captures : List (Option (List Char))}
    (ends : anchored = true → before = [] ∧ after = [])
    (written : template.Written rule captures text) : ∃ stop,
      (Regex.Automaton.ofNode (template.node rule anchored)).search (before ++ text ++ after) =
        some stop := by
  rw [List.append_assoc]
  have place : (({ place := .start (before ++ (text ++ after)) } : Regex.Attempt).past
      before).place = ⟨before.length, before.getLast?, text ++ after⟩ :=
    Regex.Place.past_start before (text ++ after)
  have front : text <+: (({ place := .start (before ++ (text ++ after)) } : Regex.Attempt).past
      before).place.rest := by
    rw [place]
    exact List.prefix_append text after
  obtain ⟨stop, taken, closes⟩ := takes_of_written rules made written 1 front
  refine Regex.Node.search_of_takes (Regex.Node.takes_anywhere.mpr
    ⟨before, List.prefix_append _ _, takes_node.mpr ⟨taken, fun anchors => ?_⟩⟩)
  obtain ⟨rfl, rfl⟩ := ends anchors
  refine ⟨rfl, ?_⟩
  rw [closes.place, place, List.append_nil]
  exact List.drop_length

end Template

end Stencil
