import Stencil.Proofs.Compiled
import Stencil.Proofs.Regex.Bare
import Stencil.Proofs.Regex.Groups
import Stencil.Proofs.Regex.Sequences
import Stencil.Proofs.Template.Assembly
/-!
# The node of a template

Where fragments are bare expressions in parentheses and literals are escaped, a template
becomes a sequence: each character of a literal, each placeholder and each optional span is
an item of its own.
-/
namespace Stencil

namespace Regex

/-- An expression without groups and assertions that stays one within parentheses. -/
structure IsRule (text : List Char) : Prop where
  read : ∃ pattern, Pattern.read text = .ok pattern ∧ pattern.keeps .bare
  encloses : ∃ whole, Pattern.read ('(' :: text ++ [')']) = .ok whole

/-- The pattern of an expression. -/
def patternOf (text : List Char) : Pattern :=
  match Pattern.read text with
  | .ok pattern => pattern
  | .error _ => .empty

/-- The node of an expression under default flags. -/
def nodeOf (text : List Char) : Node :=
  match (patternOf text).toNode {} with
  | .ok node => node
  | .error _ => .empty

theorem patternOf_eq {text : List Char} {pattern : Pattern}
    (h : Pattern.read text = .ok pattern) : patternOf text = pattern := by
  rw [patternOf, h]

theorem nodeOf_eq {text : List Char} {node : Node}
    (h : (patternOf text).toNode {} = .ok node) : nodeOf text = node := by
  rw [nodeOf, h]

/-- An expression matches the whole of a text. -/
def Matches (text value : List Char) : Prop :=
  ∃ pattern node, Pattern.read text = .ok pattern ∧ pattern.toNode {} = .ok node ∧
    node.Spells value

namespace IsRule

variable {text : List Char}

theorem bare (h : IsRule text) : (patternOf text).keeps .bare := by
  obtain ⟨⟨pattern, read, bare⟩, _⟩ := h
  rwa [patternOf_eq read]

theorem matches_iff (h : IsRule text) {node : Node} (made : (patternOf text).toNode {} = .ok node)
    (value : List Char) : Matches text value ↔ node.Spells value := by
  obtain ⟨⟨pattern, read, _⟩, _⟩ := h
  rw [patternOf_eq read] at made
  constructor
  · intro holds
    rcases holds with ⟨pattern', node', read', made', spells⟩
    cases read.symm.trans read'
    cases made.symm.trans made'
    exact spells
  · intro spells
    exact ⟨pattern, node, read, made, spells⟩

/-- The node of a rule takes what the rule matches, wherever that stands. -/
theorem takes_nodeOf (h : IsRule text) (made : ∃ node, (patternOf text).toNode {} = .ok node)
    {start stop : Attempt} : (nodeOf text).Takes start stop ↔
      ∃ value, value <+: start.place.rest ∧ stop = start.past value ∧ Matches text value := by
  obtain ⟨node, made⟩ := made
  have matched := h.matches_iff made
  rw [nodeOf_eq made]
  obtain ⟨resolved, first, rfl⟩ := map_eq_ok made
  have bare : resolved.node.factored.IsBare := by
    rw [Node.IsBare, Node.has_factored]
    exact (Pattern.resolve_of_bare h.bare first).1
  simp only [matched]
  exact Node.takes_iff_spells bare

private theorem names_of_bare {lexemes : List Lexeme} (h : lexemes.all (Lexeme.keeps .bare)) :
    lexemes.filterMap Lexeme.groupName? = [] := by
  rw [List.filterMap_eq_nil_iff]
  intro lexeme member
  have kept := List.all_eq_true.mp h lexeme member
  cases lexeme with
  | openCapture name => cases kept
  | _ => rfl

/-- The state behind an opening parenthesis. -/
private def opened : Progress :=
  ⟨⟨false, [false]⟩, ⟨{}, [(.capture, {})], []⟩⟩

/-- Within parentheses a rule is read as it is alone. -/
private theorem reads_inside (h : IsRule text) : ∃ lexemes verbose content,
    opened.Reads text lexemes ⟨⟨verbose, [false]⟩, ⟨content, [(.capture, {})], []⟩⟩ ∧
      content.toPattern = patternOf text ∧ Lexeme.Apart false text := by
  obtain ⟨⟨pattern, read, bare⟩, _⟩ := h
  obtain ⟨lexemes, after, reads, closed, same⟩ := Pattern.reads_of_read read
  have switched : lexemes.all (Lexeme.keeps .bare) := by
    rw [reads.keeps closed, same]
    exact bare
  have unnamed : after.builder.names = [] := by
    rw [Builder.names_foldlM reads.built, names_of_bare switched]
    rfl
  have plain : opened.verbosity.verbose = false := rfl
  obtain ⟨content, continues, inside⟩ := reads.within closed plain fun _ _ => List.not_mem_nil
  obtain rfl := continues.eq_of_start
  rw [unnamed] at inside
  exact ⟨lexemes, _, _, inside, by rw [same, patternOf_eq read], reads.apart⟩

/-- In parentheses a rule is one group, whichever flags it switches. -/
theorem builds (h : IsRule text) :
    Builds ('(' :: text ++ [')']) ⟨[], [.capture (patternOf text)]⟩ [] := by
  obtain ⟨lexemes, verbose, content, inside, same, apart⟩ := h.reads_inside
  have close : Lexeme.Apart verbose [')'] := .of_notMem (by decide) (by decide)
  have begins : Lexeme.Apart false (text ++ [')']) :=
    apart.append (by simp [Lexeme.apart_false])
  have group {following : List Lexeme} {after : Progress}
      (reads : opened.Reads (text ++ [')']) following after) :
      Progress.Reads {} ('(' :: text ++ [')']) (.openCapture none :: following) after :=
    .cons rfl (Builds.read_open begins) reads rfl rfl
  obtain ⟨tail, left, further⟩ := inside.run_on close
  rw [← same]
  rcases List.suffix_cons_iff.mp left.1 with rfl | late
  · exact ⟨_, group (further _ _ (.close (.nil _)))⟩
  · -- the closing parenthesis is lost in a comment, and the group stays open
    obtain rfl := List.suffix_nil.mp late
    have lost := group (further _ _ (.nil _))
    obtain ⟨_, read⟩ := h.encloses
    obtain ⟨_, after, reads, closed, _⟩ := Pattern.reads_of_read read
    obtain rfl := lost.unique reads
    cases closed

end IsRule

theorem Pattern.groupsWithin_of_bare {pattern : Pattern} (bare : pattern.keeps .bare)
    (kept : Bool) : pattern.groupsWithin kept = [] := by
  induction pattern generalizing kept with
  | empty | atom item | flags change => rfl
  | sequence first second ihFirst ihSecond | choice first second ihFirst ihSecond =>
    rw [keeps, Bool.and_eq_true] at bare
    rw [groupsWithin, ihFirst bare.1, ihSecond bare.2]
    rfl
  | capture inside => cases bare
  | group change inside ih | repetition bounds greedy inside ih => exact ih bare _

/-- The node of one character. -/
def Node.character (c : Char) : Node :=
  .set .unicode (.ofRange c.toNat c.toNat)

theorem Builds.append_items {text more : List Char} {items later : List Pattern}
    (h : Builds text ⟨[], items⟩ []) (h' : Builds more ⟨[], later⟩ []) :
    Builds (text ++ more) ⟨[], later ++ items⟩ [] := by
  obtain ⟨whole, continues, builds⟩ := h.append h' fun _ _ => List.not_mem_nil
  generalize own : (⟨[], later⟩ : Content) = second at continues
  cases continues with
  | branch items' =>
    cases own
    exact builds
  | branches branches first items' =>
    have none := congrArg Content.branches own
    simp at none

end Regex

namespace Template

/-- The rules of a template: its fragments without the parentheses around them. -/
def HasRules (template : Template) (dictionary : Dictionary) (rule : String → List Char) : Prop :=
  ∀ name ∈ template.fieldNames,
    dictionary.fragment name = some (String.ofList ('(' :: rule name ++ [')'])) ∧
      Regex.IsRule (rule name)

/-- The items of the pattern of a template, in order. -/
def items (rule : String → List Char) : Template → List Regex.Pattern
  | nil => []
  | literal text rest => text.toList.map (fun c => .atom (.character c)) ++ rest.items rule
  | placeholder name rest => .capture (Regex.patternOf (rule name)) :: rest.items rule
  | optional inside rest =>
    .repetition .atMostOne true (.capture (.ofItems (inside.items rule).reverse)) ::
      rest.items rule

/-- The items of the node of a template, with its groups numbered from `next` on. -/
def nodes (rule : String → List Char) (next : Nat) : Template → List Regex.Node
  | nil => []
  | literal text rest => text.toList.map Regex.Node.character ++ rest.nodes rule next
  | placeholder name rest =>
    .capture next (Regex.nodeOf (rule name)) :: rest.nodes rule (next + 1)
  | optional inside rest =>
    .repetition .atMostOne true (.capture next (.ofItems (inside.nodes rule (next + 1)))) ::
      rest.nodes rule (next + (1 + inside.groupCount))

theorem builds_items {template : Template} {dictionary : Dictionary} {options : Options}
    {rule : String → List Char} (rules : template.HasRules dictionary rule)
    (escaped : options.escapeLiterals = true) {text : List Char}
    (h : template.body dictionary options = .ok text) :
    Regex.Builds text ⟨[], (template.items rule).reverse⟩ [] := by
  induction template generalizing text with
  | nil =>
    cases h
    exact .nil
  | literal first rest ih =>
    obtain ⟨following, hRest, h⟩ := Regex.bind_eq_ok h
    cases h
    rw [literalExpression, if_pos escaped]
    rw [items, List.reverse_append]
    exact (Regex.Builds.escape first.toList).append_items (ih rules hRest)
  | placeholder name rest ih =>
    obtain ⟨⟨known, own⟩, rules⟩ := List.forall_mem_cons.mp rules
    rw [body, known] at h
    obtain ⟨following, hRest, h⟩ := Regex.bind_eq_ok h
    cases h
    rw [String.toList_ofList, items, List.reverse_cons]
    exact own.builds.append_items (ih rules hRest)
  | optional inside rest ihInside ihRest =>
    obtain ⟨rulesInside, rulesRest⟩ := List.forall_mem_append.mp rules
    obtain ⟨within, hInside, h⟩ := Regex.bind_eq_ok h
    obtain ⟨following, hRest, h⟩ := Regex.bind_eq_ok h
    cases h
    have group := (ihInside rulesInside hInside).optional
    have split : '(' :: within ++ ')' :: '?' :: following =
        ('(' :: within ++ [')', '?']) ++ following := by simp
    rw [items, List.reverse_cons, split]
    exact group.append_items (ihRest rulesRest hRest)

/-- The items of a template whose rules mean something resolve to its nodes. -/
theorem resolvesAll_items {template : Template} {dictionary : Dictionary}
    {rule : String → List Char} (rules : template.HasRules dictionary rule)
    (made : ∀ name ∈ template.fieldNames,
      ∃ node, (Regex.patternOf (rule name)).toNode {} = .ok node) (next : Nat) :
    Regex.Pattern.ResolvesAll {} next (template.items rule) (template.nodes rule next)
      (next + template.groupCount) := by
  induction template generalizing next with
  | nil => exact .nil next
  | literal text rest ih =>
    refine .append ?_ (ih rules made next)
    induction text.toList with
    | nil => exact .nil next
    | cons c text ihText =>
      refine .cons ?_ rfl ihText
      have single : (Regex.CharClass.ofRange c.toNat c.toNat).isSingle = true := by
        simp [Regex.CharClass.ofRange, Regex.CharClass.isSingle]
      have node : Regex.Node.ofClass .unicode (.ofRange c.toNat c.toNat) = .character c := by
        rw [Regex.Node.ofClass, single]
        rfl
      rw [← node]
      rfl
  | placeholder name rest ih =>
    obtain ⟨⟨_, own⟩, rules⟩ := List.forall_mem_cons.mp rules
    obtain ⟨⟨node, made'⟩, made⟩ := List.forall_mem_cons.mp made
    have further := ih rules made (next + 1)
    rw [Nat.add_assoc] at further
    refine .cons ?_ rfl further
    obtain ⟨resolved, first, rfl⟩ := Regex.map_eq_ok made'
    have same := (Regex.Pattern.resolve_of_bare own.bare first).2 (next + 1)
    rw [Regex.Pattern.resolve, same, Regex.nodeOf_eq made']
    rfl
  | optional inside rest ihInside ihRest =>
    obtain ⟨rulesInside, rulesRest⟩ := List.forall_mem_append.mp rules
    obtain ⟨madeInside, madeRest⟩ := List.forall_mem_append.mp made
    have within := ihInside rulesInside madeInside (next + 1)
    have further := ihRest rulesRest madeRest (next + (1 + inside.groupCount))
    rw [Nat.add_assoc] at further
    refine .cons ?_ rfl further
    rw [Regex.Pattern.resolve, Regex.Pattern.resolve, within.ofItems]
    change Except.ok (⟨Regex.Node.repeated .atMostOne true _, _, _⟩ : Regex.Resolved) = _
    rw [Regex.Node.repeated_atMostOne, Regex.Node.factored_ofItems within.isItem, Nat.add_assoc]

private theorem flags_of_items {template : Template} {rule : String → List Char}
    {flags : Regex.Flags} : ∀ item ∈ template.items rule, ∀ next resolved,
      item.resolve flags next = .ok resolved → resolved.flags = flags := by
  induction template with
  | nil => exact fun _ member => nomatch member
  | literal text rest ih =>
    intro item member next resolved h
    rw [items, List.mem_append, List.mem_map] at member
    rcases member with ⟨c, _, rfl⟩ | member
    · cases h
      rfl
    · exact ih item member next resolved h
  | placeholder name rest ih =>
    refine List.forall_mem_cons.mpr ⟨?_, ih⟩
    intro next resolved h
    obtain ⟨within, _, h⟩ := Regex.bind_eq_ok h
    cases h
    rfl
  | optional inside rest _ ih =>
    refine List.forall_mem_cons.mpr ⟨?_, ih⟩
    intro next resolved h
    obtain ⟨group, hGroup, h⟩ := Regex.bind_eq_ok h
    obtain ⟨within, _, hGroup⟩ := Regex.bind_eq_ok hGroup
    cases hGroup
    cases h
    rfl

/-- If the items of a template have a meaning, so have its rules. -/
theorem toNode_of_items {template : Template} {dictionary : Dictionary}
    {rule : String → List Char} (rules : template.HasRules dictionary rule)
    (each : ∀ item ∈ template.items rule, ∃ next resolved,
      item.resolve {} next = .ok resolved) :
    ∀ name ∈ template.fieldNames, ∃ node, (Regex.patternOf (rule name)).toNode {} = .ok node := by
  induction template with
  | nil => exact fun _ member => nomatch member
  | literal text rest ih =>
    exact ih rules fun item member => each item (List.mem_append_right _ member)
  | placeholder name rest ih =>
    obtain ⟨⟨_, own⟩, rules⟩ := List.forall_mem_cons.mp rules
    obtain ⟨⟨next, resolved, h⟩, each⟩ := List.forall_mem_cons.mp each
    refine List.forall_mem_cons.mpr ⟨?_, ih rules each⟩
    obtain ⟨within, first, _⟩ := Regex.bind_eq_ok h
    have same := (Regex.Pattern.resolve_of_bare own.bare first).2 1
    rw [Regex.Pattern.toNode, same]
    exact ⟨_, rfl⟩
  | optional inside rest ihInside ihRest =>
    obtain ⟨rulesInside, rulesRest⟩ := List.forall_mem_append.mp rules
    obtain ⟨⟨next, resolved, h⟩, each⟩ := List.forall_mem_cons.mp each
    refine List.forall_mem_append.mpr ⟨ihInside rulesInside ?_, ihRest rulesRest each⟩
    obtain ⟨group, h, _⟩ := Regex.bind_eq_ok h
    obtain ⟨within, first, _⟩ := Regex.bind_eq_ok h
    have found := (Regex.Pattern.resolve_of_mem (fun item member =>
      flags_of_items item (List.mem_reverse.mp member)) first).2
    exact fun item member => found item (List.mem_reverse.mpr member)

/-- Each slot of a template is one group of its pattern. -/
theorem groups_items {template : Template} {dictionary : Dictionary} {rule : String → List Char}
    (rules : template.HasRules dictionary rule) :
    ((template.items rule).flatMap (Regex.Pattern.groupsWithin true)).length =
        template.groupCount ∧
      ∀ group ∈ (template.items rule).flatMap (Regex.Pattern.groupsWithin true),
        group.kept = true := by
  induction template with
  | nil => exact ⟨rfl, fun _ member => nomatch member⟩
  | literal text rest ih =>
    have none : (text.toList.map fun c => Regex.Pattern.atom (.character c)).flatMap
        (Regex.Pattern.groupsWithin true) = [] := by
      rw [List.flatMap_map]
      exact List.flatMap_eq_nil_iff.mpr fun _ _ => rfl
    rw [items, List.flatMap_append, none]
    exact ih rules
  | placeholder name rest ih =>
    obtain ⟨⟨_, own⟩, rules⟩ := List.forall_mem_cons.mp rules
    obtain ⟨count, kept⟩ := ih rules
    have single : (Regex.Pattern.capture (Regex.patternOf (rule name))).groupsWithin true =
        [⟨Regex.patternOf (rule name), true⟩] := by
      rw [Regex.Pattern.groupsWithin, Regex.Pattern.groupsWithin_of_bare own.bare]
    rw [items, List.flatMap_cons, single]
    refine ⟨?_, List.forall_mem_cons.mpr ⟨rfl, kept⟩⟩
    rw [List.singleton_append, List.length_cons, count, groupCount, Nat.add_comm]
  | optional inside rest ihInside ihRest =>
    obtain ⟨rulesInside, rulesRest⟩ := List.forall_mem_append.mp rules
    obtain ⟨countInside, keptInside⟩ := ihInside rulesInside
    obtain ⟨countRest, keptRest⟩ := ihRest rulesRest
    have span : (Regex.Pattern.repetition .atMostOne true
        (.capture (.ofItems (inside.items rule).reverse))).groupsWithin true =
        ⟨.ofItems (inside.items rule).reverse, true⟩ ::
          (inside.items rule).flatMap (Regex.Pattern.groupsWithin true) := by
      change ⟨_, true⟩ :: (Regex.Pattern.ofItems _).groupsWithin true = _
      rw [Regex.Pattern.groupsWithin_ofItems, List.reverse_reverse]
    rw [items, List.flatMap_cons, span]
    constructor
    · rw [List.cons_append, List.length_cons, List.length_append, countInside, countRest,
        groupCount]
      omega
    · rw [List.cons_append, List.forall_mem_cons, List.forall_mem_append]
      exact ⟨rfl, keptInside, keptRest⟩

/-- The pattern of a template, within anchors if so asked. -/
def pattern (rule : String → List Char) (anchored : Bool) (template : Template) :
    Regex.Pattern :=
  let body := .ofItems (template.items rule).reverse
  if anchored then .sequence (.sequence (.atom .caret) (.group {} body)) (.atom .dollar) else body

/-- The node of a template, between the ends of the text if so asked. -/
def node (rule : String → List Char) (anchored : Bool) (template : Template) : Regex.Node :=
  let body := .ofItems (template.nodes rule 1)
  if anchored then
    ((Regex.Node.assertion .textStart).andThen body).andThen (.assertion .textEnd)
  else body

variable {template : Template} {dictionary : Dictionary} {options : Options}
  {rule : String → List Char}

theorem read_expression (rules : template.HasRules dictionary rule)
    (escaped : options.escapeLiterals = true) {expression : String} {pattern : Regex.Pattern}
    (written : template.expression dictionary options = .ok expression)
    (read : Regex.Pattern.read expression.toList = .ok pattern) :
    pattern = template.pattern rule options.anchored := by
  obtain ⟨text, hBody, same⟩ := Regex.bind_eq_ok written
  cases same
  rw [String.toList_ofList] at read
  have builds := builds_items rules escaped hBody
  have whole : ∃ content, Regex.Builds (if options.anchored then anchor text else text) content [] ∧
      content.toPattern = template.pattern rule options.anchored := by
    cases options.anchored with
    | false => exact ⟨_, builds, rfl⟩
    | true => exact ⟨_, builds.anchor, rfl⟩
  obtain ⟨content, builds', toPattern⟩ := whole
  rw [builds'.read, toPattern] at read
  split at read
  · exact (Except.ok.inj read).symm
  · cases read

/-- If the pattern of a template has a meaning, so have its rules, and its node is this. -/
theorem toNode_pattern (rules : template.HasRules dictionary rule) {anchored : Bool}
    {node : Regex.Node} (h : (template.pattern rule anchored).toNode {} = .ok node) :
    (∀ name ∈ template.fieldNames,
      ∃ node, (Regex.patternOf (rule name)).toNode {} = .ok node) ∧
      node = template.node rule anchored := by
  obtain ⟨resolved, hResolve, rfl⟩ := Regex.map_eq_ok h
  have body : ∃ next resolved,
      (Regex.Pattern.ofItems (template.items rule).reverse).resolve {} next = .ok resolved := by
    cases anchored with
    | false => exact ⟨1, resolved, hResolve⟩
    | true =>
      obtain ⟨front, hFront, _⟩ := Regex.bind_eq_ok hResolve
      obtain ⟨caret, hCaret, hFront⟩ := Regex.bind_eq_ok hFront
      cases hCaret
      obtain ⟨group, hGroup, _⟩ := Regex.bind_eq_ok hFront
      obtain ⟨within, hWithin, _⟩ := Regex.bind_eq_ok hGroup
      exact ⟨1, within, hWithin⟩
  obtain ⟨next, found, hBody⟩ := body
  have each := (Regex.Pattern.resolve_of_mem (fun item member =>
    flags_of_items item (List.mem_reverse.mp member)) hBody).2
  have made := toNode_of_items rules fun item member => each item (List.mem_reverse.mpr member)
  have items := resolvesAll_items rules made 1
  have factored := Regex.Node.factored_ofItems items.isItem
  refine ⟨made, ?_⟩
  cases anchored with
  | false =>
    change (Regex.Pattern.ofItems (template.items rule).reverse).resolve {} 1 = _ at hResolve
    cases items.ofItems.symm.trans hResolve
    exact factored
  | true =>
    have anchors : (template.pattern rule true).resolve {} 1 = .ok
        ⟨((Regex.Node.assertion .textStart).andThen (.ofItems (template.nodes rule 1))).andThen
          (.assertion .textEnd), {}, 1 + template.groupCount⟩ := by
      have group : (Regex.Pattern.group {} (.ofItems (template.items rule).reverse)).resolve {} 1 =
          .ok ⟨.ofItems (template.nodes rule 1), {}, 1 + template.groupCount⟩ := by
        change ((Regex.Pattern.ofItems (template.items rule).reverse).resolve {} 1 >>=
          fun within => _) = _
        rw [items.ofItems]
        change Except.ok (⟨(Regex.Node.ofItems _).factored, _, _⟩ : Regex.Resolved) = _
        rw [factored]
      change (((Regex.Pattern.group {} (.ofItems (template.items rule).reverse)).resolve {} 1 >>=
        fun after => _) >>= fun before => _) = _
      rw [group]
      rfl
    cases anchors.symm.trans hResolve
    exact Regex.Node.factored_andThen rfl _

theorem groups_pattern (rules : template.HasRules dictionary rule) (anchored : Bool) :
    (template.pattern rule anchored).groups.length = template.groupCount ∧
      ∀ group ∈ (template.pattern rule anchored).groups, group.kept = true := by
  have same : (template.pattern rule anchored).groups =
      (template.items rule).flatMap (Regex.Pattern.groupsWithin true) := by
    have body : (Regex.Pattern.ofItems (template.items rule).reverse).groupsWithin true = _ :=
      Regex.Pattern.groupsWithin_ofItems true _
    rw [List.reverse_reverse] at body
    rw [← body]
    cases anchored with
    | false => rfl
    | true => exact List.append_nil _
  rw [same]
  exact groups_items rules

/-- The program of a template searches for its node and has one group for each slot. -/
theorem program_of_rules (rules : template.HasRules dictionary rule)
    (escaped : options.escapeLiterals = true) {expression : String} {program : Regex.Program}
    (written : template.expression dictionary options = .ok expression)
    (compiled : Regex.Program.compile expression.toList false options.sizeLimit = .ok program) :
    (∀ name ∈ template.fieldNames,
      ∃ node, (Regex.patternOf (rule name)).toNode {} = .ok node) ∧
      program.automaton = .ofNode (template.node rule options.anchored) ∧
      program.groupCount = template.groupCount := by
  obtain ⟨pattern, node, read, made, _, rfl⟩ := Regex.Program.compile_eq_ok_iff.mp compiled
  obtain rfl := read_expression rules escaped written read
  obtain ⟨count, kept⟩ := groups_pattern rules options.anchored
  have last := Regex.Pattern.lastGroup_of_toNode made kept
  obtain ⟨each, rfl⟩ := toNode_pattern rules made
  exact ⟨each, rfl, last.trans count⟩

end Template

namespace Compiled

variable {compiled : Compiled} {dictionary : Dictionary} {rule : String → List Char}

/-- The captures of an input are those of the node of its template. -/
theorem captures?_of_rules (built : compiled.IsBuiltFrom dictionary)
    (escaped : compiled.options.escapeLiterals = true)
    (cased : compiled.options.caseInsensitive = false)
    (rules : compiled.template.HasRules dictionary rule) :
    (∀ name ∈ compiled.template.fieldNames,
      ∃ node, (Regex.patternOf (rule name)).toNode {} = .ok node) ∧
      ∀ input, compiled.captures? input =
        ((Regex.Automaton.ofNode (compiled.template.node rule
          compiled.options.anchored)).search input.toList).map fun stop =>
          ((List.range' 1 compiled.template.groupCount).map stop.group?).map
            (Option.map String.ofList) := by
  have program := built.program
  rw [cased] at program
  obtain ⟨made, automaton, count⟩ :=
    Template.program_of_rules rules escaped built.expression program
  refine ⟨made, ?_⟩
  intro input
  rw [captures?, Regex.Program.captures?, automaton, count, Option.map_map]
  rfl

end Compiled

end Stencil
