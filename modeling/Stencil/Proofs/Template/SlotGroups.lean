import Stencil.Proofs.Regex.Groups
import Stencil.Proofs.Regex.Limits
import Stencil.Proofs.Template.Assembly
import Stencil.Proofs.Template.Fragments
/-!
# Slots and groups

The capture groups of a template's expression, in the order of their opening parentheses,
are those of its slots in slot order: an optional span brings a group of its own, a
placeholder brings the groups of its fragment, and literals and anchors bring none.
-/
namespace Stencil

namespace Regex

/-- A text that is an expression on its own, of which only plain flags are switched. -/
structure IsPiece (text : List Char) (pattern : Pattern) : Prop where
  read : Pattern.read text = .ok pattern
  plain : pattern.keeps .plain

/-- The names of the groups in a text, in the order of their opening parentheses. -/
def groupNames (text : List Char) : List String :=
  match Lexeme.readAll {} text with
  | .ok lexemes => lexemes.filterMap Lexeme.groupName?
  | .error _ => []

/-- The groups of a text that is an expression on its own. -/
def groupsOf (text : List Char) : List Group :=
  match Pattern.read text with
  | .ok pattern => pattern.groups
  | .error _ => []

theorem Builds.groupNames {text : List Char} {content : Content} {names : List String}
    (h : Builds text content names) : names = (groupNames text).reverse := by
  obtain ⟨lexemes, reads⟩ := h
  have named := Builder.names_foldlM reads.built
  rw [Regex.groupNames, reads.lexed]
  simpa using named

/-- Two texts in a row have the groups of the first and then those of the second. -/
theorem Builds.append_groups {text more : List Char} {first second : Content}
    {names names' : List String} (h : Builds text first names.reverse)
    (h' : Builds more second names'.reverse) (fresh : (names ++ names').Nodup) :
    ∃ whole, Builds (text ++ more) whole (names ++ names').reverse ∧
      (∀ limits, whole.keeps limits = (first.keeps limits && second.keeps limits)) ∧
      whole.groups = first.groups ++ second.groups := by
  have apart := List.nodup_append.mp fresh
  obtain ⟨whole, continues, builds⟩ := h.append h' <| by
    intro name later earlier
    exact apart.2.2 name (List.mem_reverse.mp earlier) name (List.mem_reverse.mp later) rfl
  rw [List.reverse_append]
  exact ⟨whole, builds, fun _ => continues.keeps_eq, continues.groups_eq⟩

/-- A text behind which blanks mean what they mean before it. -/
def IsSteady (text : List Char) : Prop :=
  ∃ lexemes, Lexeme.readAll {} text = .ok lexemes ∧
    (lexemes.foldl Verbosity.after {}).verbose = false

/-- An expression that leaves blanks as they are builds its pattern wherever it stands. -/
theorem IsSteady.builds {text : List Char} {pattern : Pattern} (steady : IsSteady text)
    (read : Pattern.read text = .ok pattern) :
    ∃ content, Builds text content (groupNames text).reverse ∧ content.toPattern = pattern := by
  obtain ⟨lexemes, lexed, verbose⟩ := steady
  obtain ⟨lexemes', ⟨verbosity, content, enclosing, names⟩, reads, closed, same⟩ :=
    Pattern.reads_of_read read
  obtain rfl := Except.ok.inj (lexed.symm.trans reads.lexed)
  have blanks := reads.blanks
  obtain rfl : enclosing = [] := closed
  have start : verbosity = {} := by
    have level := (Lexeme.readAll_within lexed reads.built rfl []).2.2
    change lexemes.foldl Verbosity.after {} = verbosity at blanks
    rw [blanks] at verbose level
    obtain ⟨verbose', enclosing⟩ := verbosity
    obtain rfl : verbose' = false := verbose
    obtain rfl : enclosing = [] := List.length_eq_zero_iff.mp level.symm
    rfl
  subst start
  have builds : Builds text content names := ⟨lexemes, reads⟩
  rw [← builds.groupNames]
  exact ⟨content, builds, same⟩

theorem IsPiece.isSteady {text : List Char} {pattern : Pattern} (h : IsPiece text pattern) :
    IsSteady text := by
  obtain ⟨lexemes, after, reads, closed, same⟩ := Pattern.reads_of_read h.read
  have switched : lexemes.all (Lexeme.keeps .plain) := by
    rw [reads.keeps closed, same]
    exact h.plain
  exact ⟨lexemes, reads.lexed, Lexeme.blanks_of_plain switched rfl (by simp)⟩

/-- A piece builds its pattern wherever it stands. -/
theorem IsPiece.builds {text : List Char} {pattern : Pattern} (h : IsPiece text pattern) :
    ∃ content, Builds text content (groupNames text).reverse ∧ content.toPattern = pattern :=
  h.isSteady.builds h.read

end Regex

/-- A place in a template that owns capture groups. -/
inductive Slot where
  | placeholder (name : String)
  | optional (inside : Template)
deriving DecidableEq

namespace Slot

variable (dictionary : Dictionary) (options : Options)

/-- The groups that a slot brings itself: those of its fragment, or the one that an optional
span makes of the expression within it. -/
def groups : Slot → List Regex.Group
  | placeholder name =>
    match dictionary.fragment name with
    | some fragment => Regex.groupsOf fragment.toList
    | none => []
  | optional inside =>
    match inside.body dictionary options with
    | .ok text =>
      match Regex.Pattern.read text with
      | .ok pattern => [⟨pattern, true⟩]
      | .error _ => []
    | .error _ => []

end Slot

namespace Template

/-- The placeholders and optional spans, depth first and from left to right. -/
def slots : Template → List Slot
  | nil => []
  | literal _ rest => rest.slots
  | placeholder name rest => .placeholder name :: rest.slots
  | optional inside rest => .optional inside :: inside.slots ++ rest.slots

theorem length_slots (template : Template) : template.slots.length = template.groupCount := by
  induction template with
  | nil => rfl
  | literal text rest ih => exact ih
  | placeholder name rest ih => simp [slots, groupCount, ih, Nat.add_comm]
  | optional inside rest ihInside ihRest =>
    simp [slots, groupCount, ihInside, ihRest]
    omega

def literals : Template → List String
  | nil => []
  | literal text rest => text :: rest.literals
  | placeholder _ rest => rest.literals
  | optional inside rest => inside.literals ++ rest.literals

/-- The texts that the expression is put together from, in order. -/
def pieces (dictionary : Dictionary) (options : Options) : Template → List (List Char)
  | nil => []
  | literal text rest => literalExpression options text :: rest.pieces dictionary options
  | placeholder name rest =>
    ((dictionary.fragment name).getD "").toList :: rest.pieces dictionary options
  | optional inside rest => inside.pieces dictionary options ++ rest.pieces dictionary options

/-- Every fragment in use is an expression on its own, every literal is escaped or is one
without groups, and no group name is used twice. -/
structure IsSound (template : Template) (dictionary : Dictionary) (options : Options) : Prop where
  fragments : ∀ name ∈ template.fieldNames, ∃ fragment pattern,
    dictionary.fragment name = some fragment ∧ Regex.IsPiece fragment.toList pattern
  literals : ∀ text ∈ template.literals, options.escapeLiterals = true ∨
    ∃ pattern, Regex.IsPiece text.toList pattern ∧ pattern.groups = []
  names : ((template.pieces dictionary options).flatMap Regex.groupNames).Nodup

/-- Unless they are nested too deeply, the groups of a content are those of the slots, and
each optional span owns one. -/
structure Owns (template : Template) (dictionary : Dictionary) (options : Options)
    (content : Regex.Content) : Prop where
  groups : (∀ group ∈ content.groups, group.inside.depth ≤ Regex.Pattern.depthLimit) →
    content.groups = template.slots.flatMap (Slot.groups dictionary options)
  optional : (∀ group ∈ content.groups, group.inside.depth ≤ Regex.Pattern.depthLimit) →
    ∀ inside, .optional inside ∈ template.slots →
      ∃ pattern, (Slot.optional inside).groups dictionary options = [⟨pattern, true⟩]

namespace Owns

variable {inside rest template : Template} {dictionary : Dictionary} {options : Options}
  {content content' whole : Regex.Content}

theorem congr (h : template.Owns dictionary options content)
    (same : content'.groups = content.groups) : template.Owns dictionary options content' where
  groups shallow := by
    rw [same] at shallow ⊢
    exact h.groups shallow
  optional shallow := by
    rw [same] at shallow
    exact h.optional shallow

theorem of_nil : nil.Owns dictionary options {} where
  groups _ := rfl
  optional _ inside member := by cases member

theorem of_placeholder {name : String} (h : rest.Owns dictionary options content')
    (own : content.groups = (Slot.placeholder name).groups dictionary options)
    (both : whole.groups = content.groups ++ content'.groups) :
    (placeholder name rest).Owns dictionary options whole where
  groups shallow := by
    rw [both, List.forall_mem_append] at shallow
    rw [both, own, h.groups shallow.2]
    rfl
  optional shallow inside member := by
    rw [both, List.forall_mem_append] at shallow
    rw [slots, List.mem_cons] at member
    exact h.optional shallow.2 inside (member.resolve_left Slot.noConfusion)

theorem of_optional (h : inside.Owns dictionary options content)
    (h' : rest.Owns dictionary options content')
    (own : content.toPattern.depth ≤ Regex.Pattern.depthLimit →
      (Slot.optional inside).groups dictionary options = [⟨content.toPattern, true⟩])
    (both : whole.groups = ⟨content.toPattern, true⟩ :: content.groups ++ content'.groups) :
    (Template.optional inside rest).Owns dictionary options whole where
  groups shallow := by
    rw [both, List.cons_append, List.forall_mem_cons, List.forall_mem_append] at shallow
    rw [both, h.groups shallow.2.1, h'.groups shallow.2.2, slots, List.flatMap_append,
      List.flatMap_cons, own shallow.1]
    rfl
  optional shallow span member := by
    rw [both, List.cons_append, List.forall_mem_cons, List.forall_mem_append] at shallow
    rw [slots, List.mem_append, List.mem_cons] at member
    rcases member with (same | member) | member
    · cases same
      exact ⟨_, own shallow.1⟩
    · exact h.optional shallow.2.1 span member
    · exact h'.optional shallow.2.2 span member

end Owns

/-- Every fragment in use builds its groups wherever it stands, and what stands for a literal
builds none. Only allowed flags are switched in any of it. -/
structure Fits (template : Template) (dictionary : Dictionary) (options : Options)
    (allowed : Regex.FlagChange → Bool) : Prop where
  fragments : ∀ name ∈ template.fieldNames, ∃ fragment content,
    dictionary.fragment name = some fragment ∧
      Regex.Builds fragment.toList content (Regex.groupNames fragment.toList).reverse ∧
      content.keeps { flags := allowed } = true ∧
      content.groups = (Slot.placeholder name).groups dictionary options
  literals : ∀ text ∈ template.literals, ∃ content,
    Regex.Builds (literalExpression options text) content
        (Regex.groupNames (literalExpression options text)).reverse ∧
      content.keeps { flags := allowed } = true ∧ content.groups = []

theorem builds_escaped {options : Options} (escaped : options.escapeLiterals = true)
    (text : String) (allowed : Regex.FlagChange → Bool) :
    ∃ content, Regex.Builds (literalExpression options text) content
        (Regex.groupNames (literalExpression options text)).reverse ∧
      content.keeps { flags := allowed } = true ∧ content.groups = [] := by
  rw [literalExpression, if_pos escaped]
  have builds := Regex.Builds.escape text.toList
  rw [builds.groupNames] at builds
  refine ⟨_, builds, ?_, ?_⟩
  · simp [Regex.Content.keeps, Regex.Pattern.keeps]
  · simp [Regex.Content.groups_eq, Regex.Pattern.groupsWithin]

theorem IsSound.fits {template : Template} {dictionary : Dictionary} {options : Options}
    (sound : template.IsSound dictionary options) :
    template.Fits dictionary options Regex.FlagChange.isPlain where
  fragments name used := by
    obtain ⟨fragment, pattern, known, piece⟩ := sound.fragments name used
    obtain ⟨content, builds, same⟩ := piece.builds
    refine ⟨fragment, content, known, builds, ?_, ?_⟩
    · rw [← Regex.Content.keeps_toPattern, same]
      exact piece.plain
    · simp only [Slot.groups, known, Regex.groupsOf, piece.read, Regex.Content.groups, same]
  literals text used := by
    by_cases escaped : options.escapeLiterals = true
    · exact builds_escaped escaped text _
    · obtain ⟨pattern, piece, groups⟩ := (sound.literals text used).resolve_left escaped
      obtain ⟨content, builds, rfl⟩ := piece.builds
      rw [literalExpression, if_neg escaped]
      exact ⟨content, builds, (Regex.Content.keeps_toPattern content).symm.trans piece.plain,
        groups⟩

namespace Fits

variable {dictionary : Dictionary} {options : Options} {allowed : Regex.FlagChange → Bool}

theorem of_literal {text : String} {rest : Template}
    (h : (literal text rest).Fits dictionary options allowed) :
    rest.Fits dictionary options allowed where
  fragments := h.fragments
  literals := (List.forall_mem_cons.mp h.literals).2

theorem of_placeholder {name : String} {rest : Template}
    (h : (placeholder name rest).Fits dictionary options allowed) :
    rest.Fits dictionary options allowed where
  fragments := (List.forall_mem_cons.mp h.fragments).2
  literals := h.literals

theorem of_optional {inside rest : Template}
    (h : (Template.optional inside rest).Fits dictionary options allowed) :
    inside.Fits dictionary options allowed ∧ rest.Fits dictionary options allowed := by
  have fragments := List.forall_mem_append.mp h.fragments
  have literals := List.forall_mem_append.mp h.literals
  exact ⟨⟨fragments.1, literals.1⟩, ⟨fragments.2, literals.2⟩⟩

end Fits

/-- The expression of a template is put together from its pieces, and its groups are those
of the slots. -/
theorem Fits.builds_body {template : Template} {dictionary : Dictionary} {options : Options}
    {allowed : Regex.FlagChange → Bool} (fits : template.Fits dictionary options allowed)
    (names : ((template.pieces dictionary options).flatMap Regex.groupNames).Nodup)
    {text : List Char} (h : template.body dictionary options = .ok text) :
    ∃ content, Regex.Builds text content
        ((template.pieces dictionary options).flatMap Regex.groupNames).reverse ∧
      content.keeps { flags := allowed } = true ∧ template.Owns dictionary options content := by
  induction template generalizing text with
  | nil =>
    cases h
    exact ⟨{}, .nil, rfl, .of_nil⟩
  | literal first rest ih =>
    obtain ⟨following, hRest, h⟩ := Regex.bind_eq_ok h
    cases h
    rw [pieces, List.flatMap_cons] at names ⊢
    have apart := List.nodup_append.mp names
    obtain ⟨content, builds, kept, groups⟩ := fits.literals first List.mem_cons_self
    obtain ⟨content', builds', kept', owns⟩ := ih fits.of_literal apart.2.1 hRest
    obtain ⟨whole, builds, keeps, groups'⟩ := builds.append_groups builds' names
    refine ⟨whole, builds, ?_, ?_⟩
    · rw [keeps, kept, kept']
      rfl
    · rw [groups, List.nil_append] at groups'
      exact ⟨(owns.congr groups').groups, (owns.congr groups').optional⟩
  | placeholder name rest ih =>
    obtain ⟨fragment, content, known, builds, kept, own⟩ :=
      fits.fragments name List.mem_cons_self
    rw [body, known] at h
    obtain ⟨following, hRest, h⟩ := Regex.bind_eq_ok h
    cases h
    rw [pieces, List.flatMap_cons, known] at names ⊢
    have apart := List.nodup_append.mp names
    obtain ⟨content', builds', kept', owns⟩ := ih fits.of_placeholder apart.2.1 hRest
    obtain ⟨whole, builds, keeps, groups⟩ := builds.append_groups builds' names
    refine ⟨whole, builds, ?_, owns.of_placeholder own groups⟩
    rw [keeps, kept, kept']
    rfl
  | optional inside rest ihInside ihRest =>
    obtain ⟨within, hInside, h⟩ := Regex.bind_eq_ok h
    obtain ⟨following, hRest, h⟩ := Regex.bind_eq_ok h
    cases h
    rw [pieces, List.flatMap_append] at names ⊢
    have apart := List.nodup_append.mp names
    obtain ⟨content, builds, kept, owns⟩ := ihInside fits.of_optional.1 apart.1 hInside
    obtain ⟨content', builds', kept', owns'⟩ := ihRest fits.of_optional.2 apart.2.1 hRest
    obtain ⟨whole, builds'', keeps, groups⟩ := builds.optional.append_groups builds' names
    have own (shallow : content.toPattern.depth ≤ Regex.Pattern.depthLimit) :
        (Slot.optional inside).groups dictionary options = [⟨content.toPattern, true⟩] := by
      simp only [Slot.groups, hInside, builds.read, if_pos shallow]
    have span : (⟨[], [.repetition .atMostOne true (.capture content.toPattern)]⟩ :
        Regex.Content).keeps { flags := allowed } =
          (content.toPattern.keeps { flags := allowed } && true) := rfl
    refine ⟨whole, ?_, ?_, .of_optional owns owns' own groups⟩
    · simpa using builds''
    · rw [keeps, kept', span, Regex.Content.keeps_toPattern, kept]
      rfl

/-- Anchors bring no groups. -/
theorem Fits.builds_expression {template : Template} {dictionary : Dictionary}
    {options : Options} {allowed : Regex.FlagChange → Bool}
    (fits : template.Fits dictionary options allowed) (unchanged : allowed {} = true)
    (names : ((template.pieces dictionary options).flatMap Regex.groupNames).Nodup) :
    ∃ expression content, template.expression dictionary options = .ok expression ∧
      Regex.Builds expression.toList content
        ((template.pieces dictionary options).flatMap Regex.groupNames).reverse ∧
      content.keeps { flags := allowed } = true ∧ template.Owns dictionary options content := by
  obtain ⟨text, written⟩ : ∃ text, template.body dictionary options = .ok text := by
    apply body_of_fragments
    intro name used
    obtain ⟨fragment, _, known, _⟩ := fits.fragments name used
    exact ⟨fragment, known⟩
  obtain ⟨content, builds, kept, owns⟩ := fits.builds_body names written
  unfold expression
  rw [written]
  by_cases anchored : options.anchored
  · have bare : (⟨[], [.atom .dollar, .group {} content.toPattern, .atom .caret]⟩ :
        Regex.Content).groups = content.groups := List.append_nil _
    refine ⟨String.ofList (anchor text),
      ⟨[], [.atom .dollar, .group {} content.toPattern, .atom .caret]⟩, ?_, ?_, ?_,
      owns.congr bare⟩
    · change Except.ok (String.ofList (if options.anchored then _ else _)) = _
      rw [if_pos anchored]
    · rw [String.toList_ofList]
      exact builds.anchor
    · have group : (⟨[], [.atom .dollar, .group {} content.toPattern, .atom .caret]⟩ :
          Regex.Content).keeps { flags := allowed } =
            (true && ((allowed {} && content.toPattern.keeps { flags := allowed }) &&
              (true && true))) := rfl
      rw [group, unchanged, Regex.Content.keeps_toPattern, kept]
      rfl
  · refine ⟨String.ofList text, content, ?_, ?_, kept, owns⟩
    · change Except.ok (String.ofList (if options.anchored then _ else _)) = _
      rw [if_neg anchored]
    · rw [String.toList_ofList]
      exact builds

theorem builds_expression {template : Template} {dictionary : Dictionary} {options : Options}
    (sound : template.IsSound dictionary options) : ∃ expression content,
    template.expression dictionary options = .ok expression ∧
      Regex.Builds expression.toList content
        ((template.pieces dictionary options).flatMap Regex.groupNames).reverse ∧
      content.keeps .plain = true ∧ template.Owns dictionary options content :=
  sound.fits.builds_expression rfl sound.names

theorem mem_fieldNames {template : Template} {name : String}
    (h : .placeholder name ∈ template.slots) : name ∈ template.fieldNames := by
  induction template with
  | nil => cases h
  | literal text rest ih => exact ih h
  | placeholder other rest ih =>
    rcases List.mem_cons.mp h with same | h
    · cases same
      exact List.mem_cons_self
    · exact List.mem_cons_of_mem _ (ih h)
  | optional inside rest ihInside ihRest =>
    rw [slots, List.mem_append, List.mem_cons] at h
    rw [fieldNames, List.mem_append]
    rcases h with (same | h) | h
    · cases same
    · exact .inl (ihInside h)
    · exact .inr (ihRest h)

namespace Owns

variable {template : Template} {dictionary : Dictionary} {options : Options}
  {content : Regex.Content}

/-- If each fragment has one group and keeps it, so has each slot. -/
theorem single (h : template.Owns dictionary options content)
    (shallow : ∀ group ∈ content.groups, group.inside.depth ≤ Regex.Pattern.depthLimit)
    (fragments : ∀ name ∈ template.fieldNames, ∃ group,
      (Slot.placeholder name).groups dictionary options = [group] ∧ group.kept = true) :
    ∀ slot ∈ template.slots, ∃ group,
      slot.groups dictionary options = [group] ∧ group.kept = true := by
  intro slot member
  cases slot with
  | placeholder name => exact fragments name (mem_fieldNames member)
  | optional inside =>
    obtain ⟨pattern, own⟩ := h.optional shallow inside member
    exact ⟨_, own, rfl⟩

theorem kept (h : template.Owns dictionary options content)
    (shallow : ∀ group ∈ content.groups, group.inside.depth ≤ Regex.Pattern.depthLimit)
    (fragments : ∀ name ∈ template.fieldNames, ∃ group,
      (Slot.placeholder name).groups dictionary options = [group] ∧ group.kept = true) :
    ∀ group ∈ content.groups, group.kept = true := by
  intro group member
  rw [h.groups shallow] at member
  obtain ⟨owner, among, member⟩ := List.mem_flatMap.mp member
  obtain ⟨only, own, kept⟩ := h.single shallow fragments owner among
  rw [own, List.mem_singleton] at member
  rw [member]
  exact kept

end Owns

private theorem getElem?_of_singletons {α β : Type} {f : α → List β} {values : List α}
    (single : ∀ value ∈ values, ∃ found, f value = [found]) :
    (values.flatMap f).length = values.length ∧
      ∀ (place : Nat) (value : α), values[place]? = some value →
        ∃ found, f value = [found] ∧ (values.flatMap f)[place]? = some found := by
  induction values with
  | nil => simp
  | cons first values ih =>
    rw [List.forall_mem_cons] at single
    obtain ⟨⟨found, own⟩, single⟩ := single
    obtain ⟨length, at_⟩ := ih single
    rw [List.flatMap_cons, own]
    refine ⟨by simp [length], ?_⟩
    intro place value there
    cases place with
    | zero =>
      cases there
      exact ⟨found, own, rfl⟩
    | succ place => exact at_ place value there

/-- The expression of a template whose pieces are sound compiles unless it is nested too
deeply or too large. Its groups are those of the slots in slot order, numbered in this
order. If each fragment has one group and keeps it, each slot owns the group with its
own number. -/
theorem groups_of_expression {template : Template} {dictionary : Dictionary} {options : Options}
    (sound : template.IsSound dictionary options) : ∃ expression,
    template.expression dictionary options = .ok expression ∧
      (Regex.Pattern.read expression.toList ≠ .error .tooDeep →
      (∀ limit, Regex.Program.compile expression.toList options.caseInsensitive
        options.sizeLimit ≠ .error (.tooLarge limit)) →
      ∃ pattern node, Regex.Pattern.read expression.toList = .ok pattern ∧
        Regex.Program.compile expression.toList options.caseInsensitive options.sizeLimit =
          .ok (.ofNode node) ∧
        pattern.groups = template.slots.flatMap (Slot.groups dictionary options) ∧
        pattern.NumbersGroupsOf node ∧
        ((∀ name ∈ template.fieldNames, ∃ group,
            (Slot.placeholder name).groups dictionary options = [group] ∧ group.kept = true) →
          (Regex.Program.ofNode node).groupCount = template.groupCount ∧
          ∀ place slot, template.slots[place]? = some slot → ∃ group found,
            slot.groups dictionary options = [group] ∧ pattern.groups[place]? = some group ∧
              node.Captures (place + 1) found ∧ group.Resolves (place + 1) found)) := by
  obtain ⟨expression, content, written, builds, plain, owns⟩ := builds_expression sound
  refine ⟨expression, written, ?_⟩
  intro shallow small
  have level : content.toPattern.depth ≤ Regex.Pattern.depthLimit := by
    by_contra deep
    exact shallow (builds.read.trans (if_neg deep))
  have read : Regex.Pattern.read expression.toList = .ok content.toPattern :=
    builds.read.trans (if_pos level)
  have levels (group : Regex.Group) (member : group ∈ content.groups) :
      group.inside.depth ≤ Regex.Pattern.depthLimit :=
    (Regex.Pattern.depth_lt_of_mem_groupsWithin member).le.trans level
  have plain' : content.toPattern.keeps .plain :=
    (Regex.Content.keeps_toPattern content).trans plain
  obtain ⟨resolved, made, _⟩ := Regex.Pattern.resolve_of_plain plain'
    (show ({ caseless := options.caseInsensitive } : Regex.Flags).unicode = true from rfl) 1
  have node : content.toPattern.toNode { caseless := options.caseInsensitive } =
      .ok resolved.node.factored := by
    rw [Regex.Pattern.toNode, made]
    rfl
  have numbers := Regex.Pattern.numbersGroupsOf_toNode node
  refine ⟨content.toPattern, resolved.node.factored, read, ?_, owns.groups levels, numbers, ?_⟩
  · have compiled := Regex.Program.compile_of_toNode options.sizeLimit read node
    split at compiled
    · exact compiled
    · exact absurd compiled (small _)
  · intro single
    have slot := owns.single levels single
    have kept := owns.kept levels single
    obtain ⟨length, places⟩ := getElem?_of_singletons fun owner among =>
      (slot owner among).imp fun _ own => own.1
    rw [← owns.groups levels] at length places
    constructor
    · change resolved.node.factored.lastGroup = _
      rw [Regex.Pattern.lastGroup_of_toNode node kept, ← length_slots]
      exact length
    · intro place owner there
      obtain ⟨group, own, at_⟩ := places place owner there
      obtain ⟨found, captures, resolves⟩ := numbers.found (place + 1) group
        ⟨place, at_, Nat.add_comm _ _⟩ (kept group (List.mem_of_getElem? at_))
      exact ⟨group, found, own, at_, captures, resolves⟩

/-- A span around a placeholder owns the first group, and the fragment's group is the second. -/
theorem groups_of_span :
    let template := optional (placeholder "a" nil) nil
    let dictionary : Dictionary :=
      ⟨fun name => if name = "a" then some "(x)" else none, fun _ => true⟩
    template.IsSound dictionary {} ∧ ∃ (pattern : Regex.Pattern) (node : Regex.Node),
      Regex.Program.compile "((x))?".toList false none = .ok (.ofNode node) ∧
      pattern.groups = template.slots.flatMap (Slot.groups dictionary {}) ∧
      (Regex.Program.ofNode node).groupCount = 2 ∧ pattern.NumbersGroupsOf node := by
  intro template dictionary
  have sound : template.IsSound dictionary {} := by
    refine ⟨?_, ?_, ?_⟩
    · intro name used
      obtain rfl : name = "a" := by simpa [template, fieldNames] using used
      exact ⟨"(x)", .capture (.atom (.character 'x')), rfl, by cbv, rfl⟩
    · intro text used
      cases used
    · have none : (template.pieces dictionary {}).flatMap Regex.groupNames = [] := by cbv
      rw [none]
      exact List.nodup_nil
  obtain ⟨expression, written, compiles⟩ := groups_of_expression sound
  obtain rfl : "((x))?" = expression := by
    have direct : template.expression dictionary {} = .ok "((x))?" := by cbv
    exact Except.ok.inj (direct.symm.trans written)
  let inside : Regex.Pattern := .capture (.atom (.character 'x'))
  have read : Regex.Pattern.read "((x))?".toList =
      .ok (.repetition .atMostOne true (.capture inside)) := by cbv
  have shallow : Regex.Pattern.read "((x))?".toList ≠ .error .tooDeep := by
    intro deep
    rw [read] at deep
    cases deep
  have small (limit : Nat) :
      Regex.Program.compile "((x))?".toList false none ≠ .error (.tooLarge limit) := by
    intro large
    let single : Regex.Node := .capture 2 (.set .unicode ⟨[(120, 120)]⟩)
    have node : Regex.Pattern.toNode {} (.repetition .atMostOne true (.capture inside)) =
        .ok (.repetition .atMostOne true (.capture 1 single)) := by
      cbv
    rw [Regex.Program.compile_of_toNode none read node, if_pos (by decide)] at large
    cases large
  obtain ⟨pattern, node, _, compiled, groups, numbers, single⟩ := compiles shallow small
  refine ⟨sound, pattern, node, compiled, groups, ?_, numbers⟩
  refine (single ?_).1
  intro name used
  obtain rfl : name = "a" := by simpa [template, fieldNames] using used
  exact ⟨⟨.atom (.character 'x'), true⟩, by cbv, rfl⟩

/-- A fragment that repeats its only group no times leaves the compiled expression without
that group, and the template with a slot that none belongs to. -/
theorem groupCount_of_no_rounds :
    let template := placeholder "a" nil
    let dictionary : Dictionary :=
      ⟨fun name => if name = "a" then some "(x)\x7b0\x7d" else none, fun _ => true⟩
    template.IsSound dictionary {} ∧
      (∀ name ∈ template.fieldNames,
        ((Slot.placeholder name).groups dictionary {}).length = 1) ∧
      ∃ program, template.expression dictionary {} = .ok "(x)\x7b0\x7d" ∧
        Regex.Program.compile "(x)\x7b0\x7d".toList false none = .ok program ∧
        program.groupCount ≠ template.groupCount := by
  intro template dictionary
  refine ⟨⟨?_, ?_, ?_⟩, ?_, ⟨.ofNode .empty, 0⟩, ?_, ?_, ?_⟩
  · intro name used
    obtain rfl : name = "a" := by simpa [template, fieldNames] using used
    exact ⟨"(x)\x7b0\x7d", .repetition ⟨0, some 0⟩ true (.capture (.atom (.character 'x'))), rfl,
      by cbv, rfl⟩
  · intro text used
    cases used
  · have none : (template.pieces dictionary {}).flatMap Regex.groupNames = [] := by cbv
    rw [none]
    exact List.nodup_nil
  · intro name used
    obtain rfl : name = "a" := by simpa [template, fieldNames] using used
    cbv
  · cbv
  · cbv
  · decide

end Template

end Stencil
