import Mathlib
import Stencil.Proofs.Regex.Cuts.Stream
import Stencil.Proofs.Regex.Depth
import Stencil.Proofs.Template.Anchors
/-!
# What anchors let through

Anchors are written around the text of a template, so a closing parenthesis of that text may
close their group in place of their own. That is the one way in which a text that is no
expression becomes one between anchors.
-/
namespace Stencil

namespace Regex

/-- An expression with no group left for a closing parenthesis behind it. -/
def Unopened (front : List Char) : Prop :=
  (∃ pattern, Pattern.read front = .ok pattern) ∧
    Pattern.read (front ++ [')']) = .error .unopenedGroup

/-- A text that is read the same in front of any closing parenthesis, and that closes its own
groups. -/
structure Ends (front : List Char) (lexemes : List Lexeme) (own : Builder) : Prop where
  lexed : ∀ more, Lexeme.Closing more → Lexeme.readAll {} (front ++ more) =
    (Lexeme.readAll (lexemes.foldl Verbosity.after {}) more).map (lexemes ++ ·)
  built : lexemes.foldlM Builder.step {} = .ok own
  closed : own.enclosing = []

namespace Ends

variable {front : List Char} {lexemes : List Lexeme} {own : Builder}

theorem reads (h : Ends front lexemes own) :
    Progress.Reads {} front lexemes ⟨lexemes.foldl Verbosity.after {}, own⟩ where
  lexed := by
    have whole := h.lexed [] Lexeme.closing_nil
    rw [List.append_nil, Lexeme.readAll_nil] at whole
    exact whole.trans (congrArg Except.ok (List.append_nil lexemes))
  blanks := rfl
  built := h.built

/-- A closing parenthesis behind it closes nothing. -/
theorem ofLexemes (h : Ends front lexemes own) (following : List Lexeme) :
    Pattern.ofLexemes (lexemes ++ .close :: following) = .error .unopenedGroup := by
  have close : own.step .close = .error .unopenedGroup := by
    change own.close = _
    rw [Builder.close, h.closed]
  rw [Pattern.ofLexemes, List.foldlM_append, h.built]
  change ((Lexeme.close :: following).foldlM Builder.step own >>= fun builder => _) = _
  rw [List.foldlM_cons, close]
  rfl

/-- Text behind such a parenthesis does not make it an expression. -/
theorem read_ne_ok (h : Ends front lexemes own) (behind : List Char) (pattern : Pattern) :
    Pattern.read (front ++ ')' :: behind) ≠ .ok pattern := by
  intro read
  obtain ⟨whole, lexed, built⟩ := bind_eq_ok read
  rw [h.lexed _ (Lexeme.closing_cons behind), Lexeme.readAll_close] at lexed
  obtain ⟨_, further, rfl⟩ := map_eq_ok lexed
  obtain ⟨following, _, rfl⟩ := map_eq_ok further
  rw [h.ofLexemes] at built
  cases built

theorem unopened (h : Ends front lexemes own)
    (shallow : own.content.toPattern.depth ≤ Pattern.depthLimit) : Unopened front := by
  constructor
  · refine ⟨own.content.toPattern, ?_⟩
    rw [h.reads.read h.closed, if_pos shallow]
  · rw [Pattern.read, h.lexed _ (Lexeme.closing_cons []), Lexeme.readAll_close, Lexeme.readAll_nil]
    exact h.ofLexemes []

end Ends

/-- An expression with no group left for a closing parenthesis begins no longer expression with
one. -/
theorem Unopened.read_ne_ok {front : List Char} (h : Unopened front) (behind : List Char)
    (pattern : Pattern) : Pattern.read (front ++ ')' :: behind) ≠ .ok pattern := by
  obtain ⟨⟨alone, read⟩, unopened⟩ := h
  obtain ⟨lexemes, after, reads, closed, same⟩ := Pattern.reads_of_read read
  have apart : Lexeme.Apart (lexemes.foldl Verbosity.after {}).verbose [')'] :=
    .of_notMem (by decide) (by decide)
  obtain ⟨tail, left, whole⟩ := Lexeme.readAll_append reads.lexed apart
  rcases List.suffix_cons_iff.mp left.1 with rfl | late
  · rw [Lexeme.readAll_close, Lexeme.readAll_nil] at whole
    have level : ({} : Builder).enclosing.length = ({} : Verbosity).enclosing.length := rfl
    obtain ⟨front', behind', split, _, ends⟩ :=
      Lexeme.readAll_cut {} [] whole reads.built level
    have more : front ++ ')' :: behind = front' ++ ')' :: (behind' ++ behind) := by
      have whole := congrArg (· ++ behind) split
      simpa using whole
    have ends : Ends front' lexemes after.builder := ⟨ends, reads.built, closed⟩
    rw [more]
    exact ends.read_ne_ok _ pattern
  · -- the parenthesis is lost in a comment, and the text is what it is without it
    obtain rfl := List.suffix_nil.mp late
    rw [Lexeme.readAll_nil] at whole
    have same : Lexeme.readAll {} (front ++ [')']) = Lexeme.readAll {} front := by
      rw [whole, show Lexeme.readAll {} front = _ from reads.lexed]
      exact congrArg Except.ok (List.append_nil lexemes)
    rw [Pattern.read, same] at unopened
    cases read.symm.trans unopened

/-- What is an expression between anchors is one by itself, or else some front of it is one
whose closing parenthesis closes the group between the anchors. -/
theorem ends_of_anchored {text : List Char} {whole : Pattern}
    (h : Pattern.read (Template.anchor text) = .ok whole) :
    ∃ front lexemes own, Ends front lexemes own ∧
      own.content.toPattern.depth ≤ Pattern.depthLimit ∧
        (front = text ∨ ∃ behind, text = front ++ ')' :: behind) := by
  obtain ⟨_, final, anchored, closed, rfl⟩ := Pattern.reads_of_read h
  obtain ⟨lexemes, lexed, _, built⟩ := Progress.wrapped_of_reads_anchor anchored
  have fewer : final.builder.enclosing.length < 1 := by
    rw [closed]
    exact Nat.one_pos
  obtain ⟨inner, following, own, rfl, alone, none, rest⟩ :=
    Builder.exists_close {} [(.plain {}, ⟨[], [.atom .caret]⟩)] built fewer
  have level : ({} : Builder).enclosing.length = ({} : Verbosity).enclosing.length := rfl
  obtain ⟨front, behind, split, _, ends⟩ :=
    Lexeme.readAll_cut {} [false] lexed alone level
  refine ⟨front, inner, own, ⟨ends, alone, none⟩, ?_, ?_⟩
  · have whole := anchored.read closed
    rw [h] at whole
    have shallow : final.builder.content.toPattern.depth ≤ Pattern.depthLimit := by
      by_contra deep
      rw [if_neg deep] at whole
      cases whole
    obtain ⟨content, enclosing, names⟩ := own
    obtain rfl : enclosing = [] := none
    have group : (Builder.mk ⟨[], [.group {} content.toPattern, .atom .caret]⟩ [] names).Reaches
        content.toPattern.depth :=
      .inl ⟨.group {} content.toPattern, .inl List.mem_cons_self, Nat.le_add_left _ _⟩
    exact ((group.foldlM rest).le_depth closed).trans shallow
  · rcases List.append_eq_append_iff.mp split with ⟨late, same, ends⟩ | ⟨inside, same, ends⟩
    · left
      cases late with
      | nil => rw [same, List.append_nil]
      | cons c late =>
        obtain ⟨_, ends⟩ := List.cons.inj ends
        cases late with
        | nil => simp at ends
        | cons d late => simp at ends
    · cases inside with
      | nil =>
        left
        rw [same, List.append_nil]
      | cons c inside =>
        obtain ⟨rfl, _⟩ := List.cons.inj ends
        exact .inr ⟨inside, same⟩

/-- A text that means something between anchors means something by itself, unless a closing
parenthesis in it closes the group between the anchors. -/
theorem means_of_anchored {caseless : Bool} {text : List Char} {whole : Node}
    (h : Means caseless (Template.anchor text) whole) : (∃ node, Means caseless text node) ↔
      ¬∃ front behind, text = front ++ ')' :: behind ∧ Unopened front := by
  obtain ⟨pattern, read, made⟩ := h
  obtain ⟨front, lexemes, own, ends, shallow, which⟩ := ends_of_anchored read
  constructor
  · intro means
    obtain ⟨_, pattern', read', _⟩ := means
    intro overruns
    obtain ⟨front, behind, rfl, unopened⟩ := overruns
    exact unopened.read_ne_ok behind pattern' read'
  · intro none
    rcases which with rfl | ⟨behind, rfl⟩
    · obtain rfl := ends.reads.read_anchor ends.closed read
      rw [Pattern.toNode_anchored] at made
      obtain ⟨node, made, _⟩ := map_eq_ok made
      refine ⟨node, own.content.toPattern, ?_, made⟩
      rw [ends.reads.read ends.closed, if_pos shallow]
    · exact absurd ⟨front, behind, rfl, ends.unopened shallow⟩ none

/-- What does not compile for its syntax has no meaning. -/
theorem malformed_iff {expression : List Char} {caseless : Bool} {sizeLimit : Option Nat} :
    (∃ cause, Program.compile expression caseless sizeLimit = .error (.malformed cause)) ↔
      ¬∃ node, Means caseless expression node := by
  constructor
  · intro fails means
    obtain ⟨cause, malformed⟩ := fails
    obtain ⟨node, pattern, read, made⟩ := means
    rw [Program.compile_of_toNode sizeLimit read made] at malformed
    split at malformed <;> cases malformed
  · intro none
    cases read : Pattern.read expression with
    | error cause =>
      refine ⟨cause, ?_⟩
      rw [Program.compile, read]
      rfl
    | ok pattern =>
      cases made : pattern.toNode { caseless } with
      | error cause =>
        refine ⟨cause, ?_⟩
        rw [Program.compile, read]
        change ((pattern.toNode { caseless }).mapError Fault.malformed >>= fun node => _) = _
        rw [made]
        rfl
      | ok node => exact absurd ⟨node, pattern, read, made⟩ none

end Regex

namespace Compiled

/-- Where a template compiles with anchors, it fails to compile without them for its syntax
exactly if some closing parenthesis in what it writes closes the group between the anchors. -/
theorem malformed_iff_of_anchored {pattern : String} {dictionary : Dictionary}
    (options : Options) {anchored : Compiled}
    (h : (compile pattern dictionary { options with anchored := true }).outcome = .ok anchored) :
    ∃ body, anchored.template.body dictionary options = .ok body ∧
      ((∃ cause, (compile pattern dictionary { options with anchored := false }).outcome =
          .error (.expression (.malformed cause))) ↔
        ∃ front behind, body = front ++ ')' :: behind ∧ Regex.Unopened front) := by
  obtain ⟨read, options', written, compiled⟩ := outcome_compile.mp h
  rw [options'] at written compiled
  obtain ⟨body, hBody, spelled⟩ := Template.expression_eq_ok_iff.mp written
  rw [Template.body_anchored] at hBody
  refine ⟨body, hBody, ?_⟩
  obtain ⟨whole, means, _⟩ := Regex.means_of_compile compiled
  rw [spelled, if_pos rfl] at means
  have free : anchored.template.expression dictionary { options with anchored := false } =
      .ok (String.ofList body) := by
    refine Template.expression_eq_ok_iff.mpr ⟨body, ?_, String.toList_ofList⟩
    rw [Template.body_anchored, hBody]
  have outcome := outcome_compile_of_written read free
  have fails (cause : Regex.SyntaxFault) :
      (compile pattern dictionary { options with anchored := false }).outcome =
          .error (.expression (.malformed cause)) ↔
        Regex.Program.compile body options.caseInsensitive options.sizeLimit =
          .error (.malformed cause) := by
    rw [outcome, String.toList_ofList]
    cases Regex.Program.compile body options.caseInsensitive options.sizeLimit with
    | error fault =>
      change Except.error (Failure.expression fault) = _ ↔ _
      simp
    | ok program =>
      constructor
      · intro ok
        cases ok
      · intro ok
        cases ok
  simp only [fails]
  have alone := Regex.means_of_anchored means
  rw [Regex.malformed_iff, ← not_iff_not, not_not]
  exact alone

/-- Between anchors two groups are read out of a text that is no expression: one ends where the
text closes what the anchors opened, and the other begins where the text opens a group that is
closed behind it. -/
theorem malformed_of_two_groups :
    let dictionary : Dictionary := ⟨fun _ => none, fun _ => true⟩
    ∃ anchored : Compiled,
      (compile "a)(?:b" dictionary { anchored := true }).outcome = .ok anchored ∧
      ∃ cause, (compile "a)(?:b" dictionary {}).outcome =
        .error (.expression (.malformed cause)) := by
  intro dictionary
  let pattern : Regex.Pattern := .sequence (.sequence (.sequence (.atom .caret)
    (.group {} (.atom (.character 'a')))) (.group {} (.atom (.character 'b')))) (.atom .dollar)
  let node : Regex.Node := .sequence (.sequence (.sequence (.assertion .textStart)
    (.set .unicode (.ofRange 97 97))) (.set .unicode (.ofRange 98 98))) (.assertion .textEnd)
  let anchored : Compiled :=
    ⟨.literal "a)(?:b" .nil, "^(?:a)(?:b)$", .ofNode node, { anchored := true }⟩
  have built : anchored.IsBuiltFrom dictionary := by
    have read : Regex.Pattern.read "^(?:a)(?:b)$".toList = .ok pattern := by cbv
    have made : pattern.toNode {} = .ok node := by cbv
    refine ⟨by cbv, ?_⟩
    exact Regex.Program.compile_eq_ok_iff.mpr ⟨pattern, node, read, made, by decide, rfl⟩
  have compiles : (compile "a)(?:b" dictionary { anchored := true }).outcome = .ok anchored :=
    outcome_compile.mpr ⟨by cbv, rfl, built⟩
  refine ⟨anchored, compiles, ?_⟩
  obtain ⟨body, hBody, fails⟩ := malformed_iff_of_anchored {} compiles
  have written : anchored.template.body dictionary {} = .ok ['a', ')', '(', '?', ':', 'b'] := by cbv
  obtain rfl := Except.ok.inj (written.symm.trans hBody)
  have alone : Regex.Pattern.read ['a'] = .ok (.atom (.character 'a')) := by cbv
  have unopened : Regex.Pattern.read ['a', ')'] = .error .unopenedGroup := by cbv
  exact fails.mpr ⟨['a'], ['(', '?', ':', 'b'], rfl, ⟨_, alone⟩, unopened⟩

end Compiled

end Stencil

