import Stencil.Proofs.Compiled
import Stencil.Proofs.Regex.Bare
import Stencil.Proofs.Regex.Groups
import Stencil.Proofs.Regex.Sequences
import Stencil.Proofs.Template.Assembly
/-!
# Anchors

The anchors of an expression stand outside a group that holds all of it. Whatever the
expression is, its flags end with that group, so the anchors stand for the ends of the text,
and its branches are all between them. A match of the whole is then a match of the expression
from the start of the input to its end.
-/
namespace Stencil

namespace Regex

/-- The meaning of an expression: it is read as a pattern, and that resolves to a node. -/
def Means (caseless : Bool) (expression : List Char) (node : Node) : Prop :=
  ∃ pattern, Pattern.read expression = .ok pattern ∧ pattern.toNode { caseless } = .ok node

/-- A pattern as one group between anchors. -/
def Pattern.anchored (pattern : Pattern) : Pattern :=
  .sequence (.sequence (.atom .caret) (.group {} pattern)) (.atom .dollar)

/-- A node between the ends of the text. -/
def Node.anchored (node : Node) : Node :=
  ((assertion .textStart).andThen node).andThen (.assertion .textEnd)

theorem Means.unique {caseless : Bool} {expression : List Char} {node node' : Node}
    (h : Means caseless expression node) (h' : Means caseless expression node') : node = node' := by
  obtain ⟨pattern, read, made⟩ := h
  obtain ⟨pattern', read', made'⟩ := h'
  cases read.symm.trans read'
  exact Except.ok.inj (made.symm.trans made')

theorem means_of_compile {expression : List Char} {caseless : Bool} {sizeLimit : Option Nat}
    {program : Program} (h : Program.compile expression caseless sizeLimit = .ok program) :
    ∃ node, Means caseless expression node ∧ program = .ofNode node := by
  obtain ⟨pattern, node, read, made, _, same⟩ := Program.compile_eq_ok_iff.mp h
  exact ⟨node, ⟨pattern, read, made⟩, same⟩

/-! ## Reading -/

namespace Progress

/-- The state behind the front anchor and the parenthesis of its group. -/
def wrapped : Progress :=
  ⟨⟨false, [false]⟩, ⟨{}, [(.plain {}, ⟨[], [.atom .caret]⟩)], []⟩⟩

private theorem reads_anchor {text : List Char} {lexemes : List Lexeme} {after : Progress}
    (h : wrapped.Reads (text ++ [')', '$']) lexemes after) : Reads {} (Template.anchor text)
      (.atom .caret :: .openGroup {} :: lexemes) after := by
  let caret : Progress := ⟨{}, ⟨⟨[], [.atom .caret]⟩, [], []⟩⟩
  have group : caret.Reads ('(' :: '?' :: ':' :: (text ++ [')', '$']))
      (.openGroup {} :: lexemes) after := .cons rfl rfl h rfl rfl
  rw [Template.anchor_eq]
  exact .cons rfl rfl group rfl rfl

/-- Whatever stands between anchors, they are read first. -/
theorem wrapped_of_reads_anchor {text : List Char} {lexemes : List Lexeme} {after : Progress}
    (h : Reads {} (Template.anchor text) lexemes after) :
    ∃ following, wrapped.Reads (text ++ [')', '$']) following after := by
  obtain ⟨lexed, blanks, built⟩ := h
  rw [Template.anchor_eq, Lexeme.readAll_of_ok rfl rfl] at lexed
  obtain ⟨others, group, rfl⟩ := map_eq_ok lexed
  change Lexeme.readAll {} ('(' :: '?' :: ':' :: (text ++ [')', '$'])) = _ at group
  rw [Lexeme.readAll_of_ok rfl rfl] at group
  obtain ⟨following, inside, rfl⟩ := map_eq_ok group
  exact ⟨following, inside, blanks, built⟩

/-- The other anchor is read once the group is closed, also where the group is verbose. -/
private theorem reads_end (verbose : Bool) (content : Content) (names : List String) : Reads
    ⟨⟨verbose, [false]⟩, ⟨content, [(.plain {}, ⟨[], [.atom .caret]⟩)], names⟩⟩ [')', '$']
    [.close, .atom .dollar]
    ⟨{}, ⟨⟨[], [.atom .dollar, .group {} content.toPattern, .atom .caret]⟩, [], names⟩⟩ :=
  .close (.cons rfl rfl (.nil _) rfl rfl)

/-- Without the parenthesis, the rest of the text leaves the group open. -/
private theorem reads_open (verbose : Bool) (content : Content) (names : List String)
    {tail : List Char} (late : tail <:+ ['$']) : ∃ lexemes last, Reads
      ⟨⟨verbose, [false]⟩, ⟨content, [(.plain {}, ⟨[], [.atom .caret]⟩)], names⟩⟩ tail lexemes
      last ∧ last.builder.enclosing ≠ [] := by
  rcases List.suffix_cons_iff.mp late with rfl | empty
  · have front : Lexeme.trim (⟨verbose, [false]⟩ : Verbosity).verbose ['$'] = ['$'] := by
      cases verbose <;> rfl
    refine ⟨[.atom .dollar], ⟨⟨verbose, [false]⟩, ⟨content.push (.atom .dollar), _, names⟩⟩,
      ⟨?_, rfl, rfl⟩, List.cons_ne_nil _ _⟩
    rw [Lexeme.readAll_of_ok front rfl, Lexeme.readAll_nil]
    rfl
  · obtain rfl := List.suffix_nil.mp empty
    exact ⟨[], _, .nil _, List.cons_ne_nil _ _⟩

end Progress

/-- Between anchors a text that closes its groups is one group, if the whole is an expression.
It is none where a comment at the end of the text runs on over the parenthesis that closes the
group. -/
theorem Progress.Reads.read_anchor {text : List Char} {lexemes : List Lexeme} {after : Progress}
    {whole : Pattern} (reads : Reads {} text lexemes after)
    (closed : after.builder.enclosing = [])
    (h : Pattern.read (Template.anchor text) = .ok whole) :
    whole = after.builder.content.toPattern.anchored := by
  obtain ⟨_, final, anchored, ends, rfl⟩ := Pattern.reads_of_read h
  have plain : wrapped.verbosity.verbose = false := rfl
  obtain ⟨content, continues, inside⟩ := reads.within closed plain fun _ _ => List.not_mem_nil
  obtain rfl := continues.eq_of_start
  have apart : Lexeme.Apart after.verbosity.verbose [')', '$'] :=
    .of_notMem (by decide) (by decide)
  obtain ⟨tail, left, further⟩ := inside.run_on apart
  rcases List.suffix_cons_iff.mp left.1 with rfl | late
  · have whole := reads_anchor (further _ _ (reads_end _ _ _))
    obtain rfl := anchored.unique whole
    rfl
  · obtain ⟨following, last, lost, inner⟩ := reads_open _ _ _ late
    obtain rfl := anchored.unique (reads_anchor (further _ _ lost))
    exact absurd ends inner

/-! ## Matching -/

/-- Flags that an expression switches end with its group. -/
theorem Pattern.toNode_anchored (pattern : Pattern) (caseless : Bool) :
    pattern.anchored.toNode { caseless } = (pattern.toNode { caseless }).map Node.anchored := by
  have group : (Pattern.group {} pattern).resolve { caseless } 1 =
      (pattern.resolve { caseless } 1).map fun within =>
        ⟨within.node.factored, { caseless }, within.next⟩ := by
    change (pattern.resolve { caseless } 1 >>= fun within => _) = _
    cases pattern.resolve { caseless } 1 with
    | error fault => rfl
    | ok within => rfl
  have front : (Pattern.sequence (.atom .caret) (.group {} pattern)).resolve { caseless } 1 =
      ((Pattern.group {} pattern).resolve { caseless } 1 >>= fun after =>
        .ok ⟨(Node.assertion .textStart).andThen after.node, after.flags, after.next⟩) := rfl
  rw [toNode, anchored, resolve, front, group, toNode]
  cases pattern.resolve { caseless } 1 with
  | error fault => rfl
  | ok within => exact congrArg Except.ok (Node.factored_andThen rfl _)

namespace Node

theorem takes_anchored {node : Node} {start stop : Attempt} : node.anchored.Takes start stop ↔
    start.place.previous = none ∧ node.Takes start stop ∧ stop.place.rest = [] := by
  simp only [anchored, takes_andThen, Takes, Assertion.holdsAt, Option.isNone_iff_eq_none,
    List.isEmpty_iff]
  constructor
  · intro holds
    rcases holds with ⟨_, ⟨_, ⟨first, rfl⟩, taken⟩, last, rfl⟩
    exact ⟨first, taken, last⟩
  · intro holds
    rcases holds with ⟨first, taken, last⟩
    exact ⟨stop, ⟨start, ⟨first, rfl⟩, taken⟩, last, rfl⟩

/-- Anchors hold a match to the whole of a text, wherever it is looked for. -/
theorem takes_past_anchored {node : Node} {text skipped : List Char} {stop : Attempt} :
    node.anchored.Takes (({ place := .start text } : Attempt).past skipped) stop ↔
      skipped = [] ∧ node.Takes { place := .start text } stop ∧ stop.place.rest = [] := by
  rw [takes_anchored]
  constructor
  · intro holds
    rcases holds with ⟨first, taken, last⟩
    obtain rfl : skipped = [] := by
      change skipped.getLast?.or none = none at first
      rwa [Option.or_none, List.getLast?_eq_none_iff] at first
    exact ⟨rfl, taken, last⟩
  · intro holds
    rcases holds with ⟨rfl, taken, last⟩
    exact ⟨rfl, taken, last⟩

theorem takes_anywhere_anchored {node : Node} {text : List Char} {stop : Attempt} :
    node.anchored.anywhere.Takes { place := .start text } stop ↔
      node.Takes { place := .start text } stop ∧ stop.place.rest = [] := by
  rw [takes_anywhere]
  constructor
  · intro holds
    rcases holds with ⟨skipped, _, taken⟩
    exact (takes_past_anchored.mp taken).2
  · intro holds
    exact ⟨[], List.nil_prefix, takes_past_anchored.mpr ⟨rfl, holds⟩⟩

/-- Anchors are no groups. -/
theorem captures_anchored {node inside : Node} {index : Nat} :
    node.anchored.Captures index inside ↔ node.Captures index inside := by
  simp [Captures, anchored, has_andThen, Has]

theorem lastGroup_andThen (first second : Node) :
    (first.andThen second).lastGroup = max first.lastGroup second.lastGroup := by
  induction second generalizing first with
  | empty => simp [andThen, lastGroup]
  | sequence middle last ihMiddle ihLast =>
    rw [andThen, ihLast, ihMiddle, lastGroup, Nat.max_assoc]
  | _ => cases first <;> simp [andThen, lastGroup]

theorem lastGroup_anchored (node : Node) : node.anchored.lastGroup = node.lastGroup := by
  simp [anchored, lastGroup_andThen, lastGroup]

/-- A search for an anchored node finds something exactly if the node spells the text. -/
theorem search_anchored {node : Node} {text : List Char} :
    (Automaton.ofNode node.anchored).search text = none ↔ ¬node.Spells text := by
  rw [search_eq_none]
  constructor
  · intro nothing holds
    obtain ⟨stop, taken⟩ := holds
    exact nothing [] stop List.nil_prefix (takes_past_anchored.mpr ⟨rfl, taken⟩)
  · intro nothing skipped stop _ taken
    exact nothing ⟨stop, (takes_past_anchored.mp taken).2⟩

end Node

end Regex

namespace Template

/-- What a template writes between its anchors is what it writes without them. -/
theorem body_anchored (template : Template) (dictionary : Dictionary) (options : Options)
    (anchored : Bool) :
    template.body dictionary { options with anchored } = template.body dictionary options := by
  induction template with
  | nil => rfl
  | literal text rest ih =>
    rw [body, ih]
    rfl
  | placeholder name rest ih => rw [body, ih, body]
  | optional inside rest ihInside ihRest => rw [body, ihInside, ihRest, body]

theorem expression_eq_ok_iff {template : Template} {dictionary : Dictionary} {options : Options}
    {expression : String} : template.expression dictionary options = .ok expression ↔
      ∃ text, template.body dictionary options = .ok text ∧
        expression.toList = if options.anchored then anchor text else text := by
  rw [Template.expression]
  cases template.body dictionary options with
  | error missing =>
    constructor
    · intro h
      cases h
    · intro holds
      rcases holds with ⟨_, same, _⟩
      cases same
  | ok text =>
    constructor
    · intro h
      cases h
      exact ⟨text, rfl, String.toList_ofList⟩
    · intro holds
      rcases holds with ⟨_, same, spelled⟩
      cases same
      rw [← String.ofList_toList (s := expression), spelled]
      rfl

/-- An anchored expression stands for the free one of the same template between anchors. -/
theorem means_anchored {template : Template} {dictionary : Dictionary} {options : Options}
    {free anchored : String} (plain : options.anchored = false)
    (written : template.expression dictionary options = .ok free)
    (written' : template.expression dictionary { options with anchored := true } = .ok anchored)
    {caseless : Bool} {node whole : Regex.Node} (means : Regex.Means caseless free.toList node)
    (means' : Regex.Means caseless anchored.toList whole) : whole = node.anchored := by
  obtain ⟨text, hText, spelled⟩ := expression_eq_ok_iff.mp written
  obtain ⟨text', hText', spelled'⟩ := expression_eq_ok_iff.mp written'
  rw [body_anchored, hText] at hText'
  cases hText'
  rw [plain, if_neg Bool.false_ne_true] at spelled
  rw [if_pos rfl] at spelled'
  obtain ⟨pattern, read, made⟩ := means
  obtain ⟨pattern', read', made'⟩ := means'
  rw [spelled] at read
  rw [spelled'] at read'
  obtain ⟨_, _, reads, closed, rfl⟩ := Regex.Pattern.reads_of_read read
  obtain rfl := reads.read_anchor closed read'
  rw [Regex.Pattern.toNode_anchored, made] at made'
  exact (Except.ok.inj made').symm

end Template

namespace Compiled

/-- An anchored template matches exactly the inputs that its expression can match from their
start to their end, whichever match it prefers. It has no other matches, and the groups of the
expression keep their numbers. -/
theorem parse_of_anchored {free anchored : Compiled} {dictionary : Dictionary}
    (built : free.IsBuiltFrom dictionary) (built' : anchored.IsBuiltFrom dictionary)
    (template : anchored.template = free.template) (plain : free.options.anchored = false)
    (options : anchored.options = { free.options with anchored := true }) :
    ∃ node whole, Regex.Means free.options.caseInsensitive free.expression.toList node ∧
      Regex.Means free.options.caseInsensitive anchored.expression.toList whole ∧
      free.program = .ofNode node ∧ anchored.program = .ofNode whole ∧
      (∀ index inside, whole.Captures index inside ↔ node.Captures index inside) ∧
      ∀ input : String,
        ((anchored.parse input).outcome = .error .noMatch ↔ ¬node.Spells input.toList) ∧
        (∀ skipped stop,
          whole.Takes (({ place := .start input.toList } : Regex.Attempt).past skipped) stop →
          skipped = [] ∧ stop.place.rest = []) ∧
        ∀ captures, anchored.captures? input = some captures → ∃ stop,
          node.Takes { place := .start input.toList } stop ∧ stop.place.rest = [] ∧
            captures = (List.range' 1 free.program.groupCount).map fun index =>
              (stop.group? index).map String.ofList := by
  obtain ⟨node, means, program⟩ := Regex.means_of_compile built.program
  obtain ⟨whole, means', program'⟩ := Regex.means_of_compile built'.program
  have expression := built'.expression
  rw [template, options] at expression
  rw [options] at means'
  obtain rfl := Template.means_anchored plain built.expression expression means means'
  refine ⟨node, node.anchored, means, means', program, program', ?_, ?_⟩
  · intro index inside
    exact Regex.Node.captures_anchored
  intro input
  have captured : anchored.captures? input =
      ((Regex.Automaton.ofNode node.anchored).search input.toList).map fun stop =>
        (List.range' 1 free.program.groupCount).map fun index =>
          (stop.group? index).map String.ofList := by
    have count : node.anchored.lastGroup = node.lastGroup := Regex.Node.lastGroup_anchored node
    rw [captures?, program', program, Regex.Program.captures?, Option.map_map]
    simp only [Regex.Program.ofNode, count, Function.comp_def, List.map_map]
  refine ⟨?_, ?_, ?_⟩
  · rw [← Regex.Node.search_anchored]
    constructor
    · intro noMatch
      have nothing := captures?_of_no_match noMatch
      rwa [captured, Option.map_eq_none_iff] at nothing
    · intro nothing
      apply parse_of_no_match
      rw [captured, nothing]
      rfl
  · intro skipped stop taken
    obtain ⟨nothing, _, last⟩ := Regex.Node.takes_past_anchored.mp taken
    exact ⟨nothing, last⟩
  · intro captures found
    rw [captured] at found
    obtain ⟨stop, result, rfl⟩ := Option.map_eq_some_iff.mp found
    obtain ⟨taken, last⟩ :=
      Regex.Node.takes_anywhere_anchored.mp (Regex.Node.takes_of_search result)
    exact ⟨stop, taken, last, rfl⟩

/-- The bars of an expression stand within its group: the second branch matches a whole input
of which the first would match only the start. -/
theorem parse_of_anchored_branches :
    let dictionary : Dictionary := ⟨fun _ => some "(a)|ab", fun _ => true⟩
    ∃ free anchored : Compiled, free.template = .placeholder "x" .nil ∧
      anchored.template = free.template ∧ free.options = {} ∧ anchored.options = { anchored := true } ∧
      free.IsBuiltFrom dictionary ∧ anchored.IsBuiltFrom dictionary ∧
      (anchored.parse "ab").outcome ≠ .error .noMatch := by
  intro dictionary
  let pattern : Regex.Pattern := .choice (.capture (.atom (.character 'a')))
    (.sequence (.atom (.character 'a')) (.atom (.character 'b')))
  let first : Regex.Node := .set .unicode (.ofRange 97 97)
  let second : Regex.Node := .set .unicode (.ofRange 98 98)
  let node : Regex.Node := .choice (.capture 1 first) (.sequence first second)
  let template : Template := .placeholder "x" .nil
  let free : Compiled := ⟨template, "(a)|ab", .ofNode node, {}⟩
  let anchored : Compiled :=
    ⟨template, "^(?:(a)|ab)$", .ofNode node.anchored, { anchored := true }⟩
  have read : Regex.Pattern.read "(a)|ab".toList = .ok pattern := by cbv
  have made : pattern.toNode {} = .ok node := by cbv
  have built : free.IsBuiltFrom dictionary := by
    refine ⟨by cbv, ?_⟩
    exact Regex.Program.compile_eq_ok_iff.mpr ⟨pattern, node, read, made, by decide, rfl⟩
  have built' : anchored.IsBuiltFrom dictionary := by
    have read : Regex.Pattern.read "^(?:(a)|ab)$".toList = .ok pattern.anchored := by cbv
    have made : pattern.anchored.toNode {} = .ok node.anchored := by cbv
    refine ⟨by cbv, ?_⟩
    exact Regex.Program.compile_eq_ok_iff.mpr ⟨_, _, read, made, by decide, rfl⟩
  refine ⟨free, anchored, rfl, rfl, rfl, rfl, built, built', ?_⟩
  obtain ⟨node', _, means, _, _, _, _, matched⟩ := parse_of_anchored built built' rfl rfl rfl
  obtain rfl := means.unique ⟨pattern, read, made⟩
  have spells : node.Spells "ab".toList :=
    ⟨({ place := .start "ab".toList } : Regex.Attempt).past "ab".toList, .inr ⟨_, rfl, rfl⟩, rfl⟩
  intro noMatch
  exact (matched "ab").1.mp noMatch spells

end Compiled

end Stencil
