import Stencil.Proofs.Regex.Closing
import Stencil.Proofs.Regex.Decided
import Stencil.Proofs.Template.Canonical
import Stencil.Proofs.Template.Writing
/-!
# Round trips

Where each placeholder but the first stands behind a separator of its own, and no value holds
a separator, the next character tells where a value ends and whether an optional span is
there. Parsing what was written of such a template gives back what was written.
-/
namespace Stencil

/-- The characters of the values that a placeholder takes. -/
inductive ValueKind where
  | letters
  | digits
deriving DecidableEq

namespace ValueKind

def fragment : ValueKind → String
  | letters => "([a-z]+)"
  | digits => "([0-9]+)"

def rule : ValueKind → List Char
  | letters => ['[', 'a', '-', 'z', ']', '+']
  | digits => ['[', '0', '-', '9', ']', '+']

def members : ValueKind → Regex.CharClass
  | letters => .ofRange 'a'.toNat 'z'.toNat
  | digits => .ofRange '0'.toNat '9'.toNat

def Holds (c : Char) : ValueKind → Prop
  | letters => 'a' ≤ c ∧ c ≤ 'z'
  | digits => '0' ≤ c ∧ c ≤ '9'

/-- A value has at least one character, and all are of the kind. -/
def Accepts (kind : ValueKind) (value : String) : Prop :=
  value.toList ≠ [] ∧ ∀ c ∈ value.toList, kind.Holds c

theorem contains_members {kind : ValueKind} {c : Char} :
    kind.members.contains c = true ↔ kind.Holds c := by
  cases kind <;> simp [members, Holds, Regex.CharClass.contains, Regex.CharClass.ofRange,
    Text.inRanges, Char.le_def, UInt32.le_iff_toNat_le]

theorem fragment_eq (kind : ValueKind) :
    kind.fragment = String.ofList ('(' :: kind.rule ++ [')']) := by
  cases kind <;> rfl

theorem isRule (kind : ValueKind) : Regex.IsRule kind.rule := by
  cases kind with
  | letters =>
    let pattern : Regex.Pattern :=
      .repetition .atLeastOne true (.atom (.set (.union .empty (.range 'a' 'z')) 1))
    exact ⟨⟨pattern, by cbv, rfl⟩, .capture pattern, by cbv⟩
  | digits =>
    let pattern : Regex.Pattern :=
      .repetition .atLeastOne true (.atom (.set (.union .empty (.range '0' '9')) 1))
    exact ⟨⟨pattern, by cbv, rfl⟩, .capture pattern, by cbv⟩

theorem nodeOf_rule (kind : ValueKind) :
    Regex.nodeOf kind.rule = .repetition .atLeastOne true (.set .unicode kind.members) := by
  cases kind <;> cbv

end ValueKind

/-- A character that ends every value and means nothing in a template. -/
structure IsSeparator (c : Char) : Prop where
  endsValue : ∀ kind : ValueKind, ¬kind.Holds c
  noBrace : c ≠ '{'
  noAngle : c ≠ '<' ∧ c ≠ '>'

/-- Placeholders behind separators, some of them at the head of a span with a record inside it. -/
inductive Record where
  | nil
  | field (separator : Char) (name : String) (rest : Record)
  | span (separator : Char) (name : String) (inside rest : Record)

namespace Record

def toTemplate : Record → Template
  | nil => .nil
  | field separator name rest =>
    .literal (String.singleton separator) (.placeholder name rest.toTemplate)
  | span separator name inside rest =>
    .optional (.literal (String.singleton separator) (.placeholder name inside.toTemplate))
      rest.toTemplate

def separators : Record → List Char
  | nil => []
  | field separator _ rest => separator :: rest.separators
  | span separator _ inside rest => separator :: (inside.separators ++ rest.separators)

/-- What can be written of a record: the readings in slot order, and the text. What is within a
span is there only if the span is. -/
inductive Filled (kinds : String → ValueKind) : Record → List Reading → List Char → Prop
  | nil : Filled kinds nil [] []
  | field {separator : Char} {name value : String} {rest : Record} {readings : List Reading}
      {more : List Char} (accepts : (kinds name).Accepts value)
      (following : Filled kinds rest readings more) :
    Filled kinds (field separator name rest) (⟨name, some value⟩ :: readings)
      (separator :: value.toList ++ more)
  | present {separator : Char} {name value : String} {inside rest : Record}
      {readings others : List Reading} {text more : List Char}
      (accepts : (kinds name).Accepts value) (within : Filled kinds inside readings text)
      (following : Filled kinds rest others more) :
    Filled kinds (span separator name inside rest) (⟨name, some value⟩ :: readings ++ others)
      (separator :: value.toList ++ text ++ more)
  | absent {separator : Char} {name : String} {inside rest : Record} {readings : List Reading}
      {more : List Char} (following : Filled kinds rest readings more) :
    Filled kinds (span separator name inside rest)
      ((name :: inside.toTemplate.fieldNames).map (fun name => ⟨name, none⟩) ++ readings) more

/-- The text that comes next starts with a separator, which is none of these, or is empty. -/
def Stops (separators text : List Char) : Prop :=
  ∀ c, text.head? = some c → IsSeparator c ∧ c ∉ separators

variable {kinds : String → ValueKind} {record : Record} {readings : List Reading} {text : List Char}

/-- The text of a record begins with one of its separators, or the text behind it comes first. -/
theorem Filled.head? (h : record.Filled kinds readings text) {after : List Char} {c : Char}
    (first : (text ++ after).head? = some c) : c ∈ record.separators ∨ after.head? = some c := by
  induction h with
  | nil => exact .inr first
  | field accepts following ih =>
    obtain rfl := Option.some.inj first
    exact .inl List.mem_cons_self
  | present accepts within following ihInside ihRest =>
    obtain rfl := Option.some.inj first
    exact .inl List.mem_cons_self
  | absent following ih =>
    rcases ih first with member | later
    · exact .inl (List.mem_cons_of_mem _ (List.mem_append_right _ member))
    · exact .inr later

theorem Filled.stops (h : record.Filled kinds readings text) {others after : List Char}
    (separators : ∀ c ∈ record.separators, IsSeparator c)
    (apart : ∀ c ∈ record.separators, c ∉ others) (stops : Stops others after) :
    Stops others (text ++ after) := by
  intro c first
  rcases h.head? first with member | later
  · exact ⟨separators c member, apart c member⟩
  · exact stops c later

theorem Stops.imp {separators others : List Char} (h : Stops separators text)
    (fewer : ∀ c ∈ others, c ∈ separators) : Stops others text :=
  fun c first => ⟨(h c first).1, fun member => (h c first).2 (fewer c member)⟩

end Record

/-- A placeholder takes all of a value that something else comes after. -/
theorem leads_value {kind : ValueKind} {value : String} (accepts : kind.Accepts value)
    {after : List Char} (stops : Record.Stops [] after) {start : Regex.Attempt}
    (whole : start.place.rest = value.toList ++ after) (next : Nat) :
    ∃ stop, (Regex.Node.capture next (Regex.nodeOf kind.rule)).Leads start stop ∧
      Regex.Closes next [some value.toList] value.toList start stop := by
  have front : value.toList <+: start.openGroup.place.rest := ⟨after, whole.symm⟩
  have inside : Regex.Closes (next + 1) [] value.toList start.openGroup
      (start.openGroup.past value.toList) := .past (next + 1) 0 front
  refine ⟨_, Regex.Node.leads_capture ?_, inside.capture⟩
  rw [ValueKind.nodeOf_rule]
  apply Regex.Node.leads_class accepts.1 front
  · intro c member
    exact ValueKind.contains_members.mpr (accepts.2 c member)
  · apply Regex.Attempt.move?_eq_none
    intro c first
    rw [inside.rest whole] at first
    rw [Bool.eq_false_iff]
    intro member
    exact (stops c first).1.endsValue kind (ValueKind.contains_members.mp member)

namespace Template

/-- The nodes of a template are led through a text. They close its groups, and the captures
read as given. -/
def Led (rule : String → List Char) (template : Template) (next : Nat)
    (readings : List Reading) (text : List Char) (start stop : Regex.Attempt) : Prop :=
  ∃ captures, Regex.Node.LeadsAll (template.nodes rule next) start stop ∧
    Regex.Closes next captures text start stop ∧ captures.length = template.groupCount ∧
    template.readings true (captures.map (Option.map String.ofList)) = readings

namespace Led

variable {rule : String → List Char} {inside rest : Template} {next : Nat}
  {readings others : List Reading} {text more : List Char} {start middle stop : Regex.Attempt}

theorem nil : Template.nil.Led rule next [] [] start start :=
  ⟨[], rfl, .past next 0 List.nil_prefix, rfl, rfl⟩

theorem rest_eq {template : Template} (h : template.Led rule next readings text start stop)
    {after : List Char} (whole : start.place.rest = text ++ after) : stop.place.rest = after := by
  obtain ⟨_, _, closes, _⟩ := h
  exact closes.rest whole

/-- A value is taken up to the end of it, and what follows is led through the rest. -/
theorem value {name value : String} {kind : ValueKind} (known : rule name = kind.rule)
    (accepts : kind.Accepts value) {after : List Char} (stops : Record.Stops [] after)
    (whole : start.place.rest = value.toList ++ after)
    (following : ∀ middle : Regex.Attempt, middle.place.rest = after →
      ∃ stop, rest.Led rule (next + 1) readings more middle stop) :
    ∃ stop, (Template.placeholder name rest).Led rule next (⟨name, some value⟩ :: readings)
      (value.toList ++ more) start stop := by
  obtain ⟨middle, leads, closes⟩ := leads_value accepts stops whole next
  obtain ⟨stop, captures, leads', closes', count, read⟩ := following middle (closes.rest whole)
  refine ⟨stop, some value.toList :: captures, ⟨middle, ?_, leads'⟩, closes.append closes', ?_, ?_⟩
  · rw [known]
    exact leads
  · rw [List.length_cons, count, groupCount, Nat.add_comm]
  · rw [List.map_cons, Template.readings, List.headD_cons, List.tail_cons, read, if_pos rfl,
      Option.map_some, String.ofList_toList]

theorem separator (c : Char) (whole : start.place.rest = c :: more)
    (following : ∀ middle : Regex.Attempt, middle.place.rest = more →
      ∃ stop, rest.Led rule next readings text middle stop) :
    ∃ stop, (Template.literal (String.singleton c) rest).Led rule next readings (c :: text)
      start stop := by
  have front : [c] <+: start.place.rest := ⟨more, whole.symm⟩
  have first : Regex.Closes next [] [c] start (start.past [c]) := .past next 0 front
  have takes : (Regex.Node.character c).Takes start (start.past [c]) :=
    Regex.Node.takes_character.mpr ⟨front, rfl⟩
  obtain ⟨stop, captures, leads, closes, count, read⟩ :=
    following (start.past [c]) (first.rest whole)
  refine ⟨stop, captures, ?_, first.append closes, count, read⟩
  rw [nodes, String.toList_singleton]
  exact ⟨start.past [c], Regex.Node.leads_set takes, leads⟩

/-- A span is there if what is inside it is led through some text. -/
theorem present (within : inside.Led rule (next + 1) readings text start.openGroup middle)
    (following : rest.Led rule (next + (1 + inside.groupCount)) others more
      (middle.closeGroup next) stop) :
    (Template.optional inside rest).Led rule next (readings ++ others) (text ++ more)
      start stop := by
  obtain ⟨captures, leads, closes, count, read⟩ := within
  obtain ⟨captures', leads', closes', count', read'⟩ := following
  have group := closes.capture
  have length : (some text :: captures).length = 1 + inside.groupCount := by
    rw [List.length_cons, count, Nat.add_comm]
  have tail : (captures.map (Option.map String.ofList)).length = inside.groupCount := by
    rw [List.length_map, count]
  rw [← length] at closes'
  refine ⟨_, ⟨middle.closeGroup next, ?_, leads'⟩, group.append closes', ?_, ?_⟩
  · have body := Regex.Node.leads_ofItems leads
    exact Regex.Node.leads_present (Regex.Node.leads_capture body)
  · rw [List.length_append, length, count', groupCount]
  · rw [List.map_append, List.map_cons, List.cons_append, Template.readings, List.tail_cons,
      List.take_left' tail, List.drop_left' tail, read']
    exact congrArg (· ++ others) read

/-- A span is left out if what is inside it fails at once. -/
theorem absent (blocked : (Regex.Node.ofItems (inside.nodes rule (next + 1))).Blocked
      start.openGroup)
    (following : rest.Led rule (next + (1 + inside.groupCount)) others more start stop) :
    (Template.optional inside rest).Led rule next
      (inside.fieldNames.map (fun name => ⟨name, none⟩) ++ others) more start stop := by
  obtain ⟨captures, leads, closes, count, read⟩ := following
  have tail : ((List.replicate inside.groupCount (none : Option (List Char))).map
      (Option.map String.ofList)).length = inside.groupCount := by
    rw [List.length_map, List.length_replicate]
  refine ⟨_, ⟨start, ?_, leads⟩, closes.skip inside.groupCount, ?_, ?_⟩
  · exact Regex.Node.leads_absent (Regex.Node.blocked_capture blocked)
  · rw [List.length_cons, List.length_append, List.length_replicate, count, groupCount]
    omega
  · rw [List.map_cons, List.map_append, Template.readings, List.tail_cons, List.drop_left' tail,
      read]
    exact congrArg (· ++ others) (readings_false inside _)

end Led

end Template

namespace Record

variable {kinds : String → ValueKind} {record : Record} {readings : List Reading} {text : List Char}

/-- The nodes of a record are led through what is written of it. -/
theorem Filled.led (h : record.Filled kinds readings text)
    (separators : ∀ c ∈ record.separators, IsSeparator c) (apart : record.separators.Nodup)
    {after : List Char} (stops : Stops record.separators after) (next : Nat)
    {start : Regex.Attempt} (whole : start.place.rest = text ++ after) :
    ∃ stop, record.toTemplate.Led (fun name => (kinds name).rule) next readings text start
      stop := by
  induction h generalizing after next start with
  | nil => exact ⟨start, .nil⟩
  | @field separator name value rest readings more accepts following ih =>
    obtain ⟨own, separators⟩ := List.forall_mem_cons.mp separators
    obtain ⟨new, apart⟩ := List.nodup_cons.mp apart
    have stops : Stops rest.separators after := stops.imp fun c => List.mem_cons_of_mem _
    have ends : Stops [] (more ++ after) :=
      following.stops separators (fun _ _ => List.not_mem_nil) (stops.imp fun _ => nofun)
    rw [List.append_assoc] at whole
    apply Template.Led.separator separator whole
    intro middle here
    apply Template.Led.value rfl accepts ends here
    intro middle here
    exact ih separators apart stops (next + 1) here
  | @present separator name value inside rest readings others text more accepts within following
      ihInside ihRest =>
    obtain ⟨own, separators⟩ := List.forall_mem_cons.mp separators
    obtain ⟨separatorsInside, separatorsRest⟩ := List.forall_mem_append.mp separators
    obtain ⟨new, apart⟩ := List.nodup_cons.mp apart
    obtain ⟨apartInside, apartRest, disjoint⟩ := List.nodup_append.mp apart
    have stops : Stops (inside.separators ++ rest.separators) after :=
      stops.imp fun c => List.mem_cons_of_mem _
    have stopsInside : Stops inside.separators (more ++ after) :=
      following.stops separatorsRest (fun c later early => disjoint c early c later rfl)
        (stops.imp fun c => List.mem_append_left _)
    have ends : Stops [] (text ++ (more ++ after)) :=
      within.stops separatorsInside (fun _ _ => List.not_mem_nil) (stopsInside.imp fun _ => nofun)
    rw [List.append_assoc] at whole
    have opened : start.openGroup.place.rest =
        separator :: (value.toList ++ (text ++ (more ++ after))) := by
      rw [List.append_assoc] at whole
      exact whole
    have span : ∃ middle, (Template.literal (String.singleton separator)
        (.placeholder name inside.toTemplate)).Led (fun name => (kinds name).rule) (next + 1)
        (⟨name, some value⟩ :: readings) (separator :: (value.toList ++ text))
        start.openGroup middle := by
      apply Template.Led.separator separator opened
      intro middle here
      apply Template.Led.value rfl accepts ends here
      intro middle here
      exact ihInside separatorsInside apartInside stopsInside (next + 1 + 1) here
    obtain ⟨middle, inner⟩ := span
    have later : (middle.closeGroup next).place.rest = more ++ after := by
      rw [Regex.Attempt.place_closeGroup]
      exact inner.rest_eq whole
    obtain ⟨stop, following⟩ := ihRest separatorsRest apartRest
      (stops.imp fun c => List.mem_append_right _) _ later
    exact ⟨stop, inner.present following⟩
  | @absent separator name inside rest readings more following ih =>
    obtain ⟨own, separators⟩ := List.forall_mem_cons.mp separators
    obtain ⟨separatorsInside, separatorsRest⟩ := List.forall_mem_append.mp separators
    obtain ⟨new, apart⟩ := List.nodup_cons.mp apart
    obtain ⟨apartInside, apartRest, disjoint⟩ := List.nodup_append.mp apart
    have stopsRest : Stops rest.separators after :=
      stops.imp fun c member => List.mem_cons_of_mem _ (List.mem_append_right _ member)
    have ends : Stops [separator] (more ++ after) := by
      apply following.stops separatorsRest
      · intro c later same
        rw [List.mem_singleton] at same
        subst same
        exact new (List.mem_append_right _ later)
      · apply stops.imp
        intro c same
        rw [List.mem_singleton.mp same]
        exact List.mem_cons_self
    have fails : start.openGroup.move? (.ofRange separator.toNat separator.toNat) = none := by
      apply Regex.Attempt.move?_eq_none
      intro c first
      have first : (more ++ after).head? = some c := whole ▸ first
      rw [Bool.eq_false_iff]
      intro member
      have same := Regex.CharClass.contains_ofRange_self.mp member
      exact (ends c first).2 (List.mem_singleton.mpr same)
    have blocked : (Regex.Node.ofItems ((Template.literal (String.singleton separator)
        (.placeholder name inside.toTemplate)).nodes (fun name => (kinds name).rule)
        (next + 1))).Blocked start.openGroup := by
      rw [Template.nodes, String.toList_singleton]
      exact Regex.Node.blocked_ofItems (Regex.Node.blocked_set fails) _
    obtain ⟨stop, following⟩ := ih separatorsRest apartRest stopsRest _ whole
    exact ⟨stop, .absent blocked following⟩

/-- The template that begins with a placeholder and goes on with a record. -/
def template (first : String) (record : Record) : Template :=
  .placeholder first record.toTemplate

/-- No two placeholders share a name, and no two separators are the same. -/
structure IsUnambiguous (first : String) (record : Record) : Prop where
  names : ∀ name ∈ (record.template first).fieldNames, Template.IsName name.toList
  distinct : (record.template first).fieldNames.Nodup
  separators : ∀ c ∈ record.separators, IsSeparator c
  apart : record.separators.Nodup

theorem canonical_toTemplate {inside : Bool} {dictionary : Dictionary}
    (known : ∀ name ∈ record.toTemplate.fieldNames,
      Template.IsName name.toList ∧ dictionary.contains name = true)
    (separators : ∀ c ∈ record.separators, IsSeparator c) :
    record.toTemplate.Canonical dictionary inside := by
  have literal {c : Char} (own : IsSeparator c) (inside : Bool) :
      Template.IsLiteralText inside (String.singleton c).toList := by
    rw [String.toList_singleton]
    have opens : '<' ∉ [c] := by simpa using own.noAngle.1.symm
    have closes : '>' ∉ [c] := by simpa using own.noAngle.2.symm
    have braces : '{' ∉ [c] := by simpa using own.noBrace.symm
    exact ⟨by simp, opens, fun _ => closes, Template.bracesClose_of_notMem braces⟩
  induction record generalizing inside with
  | nil => trivial
  | field separator name rest ih =>
    obtain ⟨own, separators⟩ := List.forall_mem_cons.mp separators
    obtain ⟨named, known⟩ := List.forall_mem_cons.mp known
    exact ⟨literal own inside, rfl, named.1, named.2, ih known separators⟩
  | span separator name within rest ihInside ihRest =>
    obtain ⟨own, separators⟩ := List.forall_mem_cons.mp separators
    obtain ⟨separatorsInside, separatorsRest⟩ := List.forall_mem_append.mp separators
    obtain ⟨knownInside, knownRest⟩ := List.forall_mem_append.mp known
    obtain ⟨named, knownInside⟩ := List.forall_mem_cons.mp knownInside
    exact ⟨⟨literal own true, rfl, named.1, named.2, ihInside knownInside separatorsInside⟩,
      ihRest knownRest separatorsRest⟩

/-- The source of an unambiguous record is only read as its own template. -/
theorem IsUnambiguous.eq_of_read {first : String} (h : record.IsUnambiguous first)
    {dictionary : Dictionary} {found : Template}
    (read : (Template.read dictionary (record.template first).source).outcome = .ok found) :
    found = record.template first := by
  let every : Dictionary := ⟨fun _ => none, fun _ => true⟩
  obtain ⟨named, names⟩ := List.forall_mem_cons.mp h.names
  have canonical : (record.template first).Canonical every false :=
    ⟨named, rfl, canonical_toTemplate (fun name member => ⟨names name member, rfl⟩) h.separators⟩
  exact Template.eq_of_read canonical read

theorem hasRules {first : String} {dictionary : Dictionary}
    (fragments : ∀ name ∈ (record.template first).fieldNames,
      dictionary.fragment name = some (kinds name).fragment) :
    (record.template first).HasRules dictionary fun name => (kinds name).rule := by
  intro name used
  rw [fragments name used, ValueKind.fragment_eq]
  exact ⟨rfl, (kinds name).isRule⟩

/-- A search in what was written of a record finds all of it. -/
theorem Filled.search {first value : String} (clear : record.IsUnambiguous first)
    (accepts : (kinds first).Accepts value) (filled : record.Filled kinds readings text)
    (anchored : Bool) : ∃ captures stop,
      (Regex.Automaton.ofNode ((record.template first).node (fun name => (kinds name).rule)
        anchored)).search (value.toList ++ text) = some stop ∧
      (List.range' 1 (record.template first).groupCount).map stop.group? = captures ∧
      captures.length = (record.template first).groupCount ∧
      (record.template first).readings true (captures.map (Option.map String.ofList)) =
        ⟨first, some value⟩ :: readings := by
  have stops : Stops record.separators [] := fun _ => nofun
  have ends : Stops [] (text ++ []) :=
    filled.stops clear.separators (fun _ _ => List.not_mem_nil) (stops.imp fun _ => nofun)
  let start : Regex.Attempt := { place := .start (value.toList ++ text) }
  have whole : start.place.rest = value.toList ++ (text ++ []) := by
    rw [List.append_nil]
    rfl
  obtain ⟨stop, captures, leads, closes, count, read⟩ :
      ∃ stop, (record.template first).Led (fun name => (kinds name).rule) 1
        (⟨first, some value⟩ :: readings) (value.toList ++ text) start stop := by
    apply Template.Led.value rfl accepts ends whole
    intro middle here
    exact filled.led clear.separators clear.apart stops 2 here
  refine ⟨captures, stop, Regex.Node.search_of_leads ?_, ?_, count, read⟩
  · have body := Regex.Node.leads_ofItems leads
    cases anchored with
    | false => exact body
    | true =>
      have last : stop.place.rest = [] := closes.rest (by rw [whole, List.append_assoc])
      have begins : (Regex.Node.assertion .textStart).Leads start start :=
        Regex.Node.leads_assertion rfl
      have finishes : (Regex.Node.assertion .textEnd).Leads stop stop := by
        apply Regex.Node.leads_assertion
        rw [Regex.Assertion.holdsAt, last]
        rfl
      exact Regex.Node.leads_andThen (Regex.Node.leads_andThen begins body) finishes
  · rw [← count]
    exact closes.map_group? rfl

end Record

namespace Compiled

open Record

/-- What is written of an unambiguous record is parsed as what was chosen: every placeholder
that is there has its value, and every other has none. -/
theorem parse_of_filled {first : String} {record : Record} (clear : record.IsUnambiguous first)
    {dictionary : Dictionary} {options : Options} {kinds : String → ValueKind}
    (fragments : ∀ name ∈ (record.template first).fieldNames,
      dictionary.fragment name = some (kinds name).fragment)
    (escaped : options.escapeLiterals = true) (cased : options.caseInsensitive = false)
    {compiled : Compiled}
    (compiles : (compile (record.template first).source dictionary options).outcome = .ok compiled)
    {value : String} {readings : List Reading} {text : List Char}
    (accepts : (kinds first).Accepts value) (filled : record.Filled kinds readings text) :
    ∃ fields all,
      (compiled.parse (value ++ String.ofList text)).outcome = .ok fields ∧
      (compiled.parseAll (value ++ String.ofList text)).outcome = .ok all ∧
      (∀ name found, fields[name]? = some found ↔
        ⟨name, some found⟩ ∈ (⟨first, some value⟩ : Reading) :: readings) ∧
      ∀ name found, all[name]? = some found ↔
        ⟨name, found⟩ ∈ (⟨first, some value⟩ : Reading) :: readings := by
  obtain ⟨read, rfl, built⟩ := outcome_compile.mp compiles
  have same := clear.eq_of_read read
  have rules : compiled.template.HasRules dictionary fun name => (kinds name).rule := by
    rw [same]
    exact hasRules fragments
  obtain ⟨_, captured⟩ := captures?_of_rules built escaped cased rules
  obtain ⟨captures, stop, found, groups, count, readings_⟩ :=
    filled.search clear accepts compiled.options.anchored
  have matched := captured (value ++ String.ofList text)
  rw [same, String.toList_append, String.toList_ofList, found, Option.map_some, groups] at matched
  have length : (captures.map (Option.map String.ofList)).length =
      compiled.template.groupCount := by
    rw [List.length_map, count, same]
  have parsed := parse_of_captures matched length
  have parsedAll := parseAll_of_captures matched length
  rw [same, readings_] at parsed parsedAll
  have distinct : (((⟨first, some value⟩ : Reading) :: readings).map Reading.name).Nodup := by
    rw [← readings_, Template.names_readings]
    exact clear.distinct
  exact ⟨_, _, parsed, parsedAll, fun _ _ => Fields.getElem?_ofReadings_of_nodup distinct,
    fun _ _ => Fields.getElem?_allOfReadings_of_nodup distinct⟩

/-- A span is there, the span inside it is not, and the span behind both is there again. -/
theorem fields_of_nested_spans :
    let record : Record :=
      .span ';' "b" (.span ',' "c" .nil .nil) (.span '=' "d" .nil .nil)
    let dictionary : Dictionary :=
      ⟨fun name => some (if name = "c" then "([0-9]+)" else "([a-z]+)"), fun _ => true⟩
    ∃ compiled fields all, (compile (record.template "a").source dictionary
        { anchored := true, escapeLiterals := true }).outcome = .ok compiled ∧
      (record.template "a").source = "{a}<;{b}<,{c}>><={d}>" ∧
      (compiled.parse "ab;x=yz").outcome = .ok fields ∧ fields["b"]? = some "x" ∧
      fields["d"]? = some "yz" ∧
      (compiled.parseAll "ab;x=yz").outcome = .ok all ∧ all["c"]? = some none := by
  intro record dictionary
  let options : Options := { anchored := true, escapeLiterals := true }
  let kinds (name : String) : ValueKind := if name = "c" then .digits else .letters
  have separator {c : Char} (h : c = ';' ∨ c = ',' ∨ c = '=') : IsSeparator c := by
    rcases h with rfl | rfl | rfl
    all_goals
      exact ⟨fun kind => by cases kind <;> simp [ValueKind.Holds], by decide, by decide⟩
  have clear : record.IsUnambiguous "a" := by
    refine ⟨?_, by decide, fun c member => separator (by simpa [record, separators] using member),
      by decide⟩
    intro name used
    change name ∈ ["a", "b", "c", "d"] at used
    simp only [List.mem_cons, List.not_mem_nil, or_false] at used
    rcases used with rfl | rfl | rfl | rfl <;> exact Template.isName_iff.mp (by decide)
  let word : Regex.Pattern :=
    .capture (.repetition .atLeastOne true (.atom (.set (.union .empty (.range 'a' 'z')) 1)))
  let number : Regex.Pattern :=
    .capture (.repetition .atLeastOne true (.atom (.set (.union .empty (.range '0' '9')) 1)))
  let span (inside : Regex.Pattern) : Regex.Pattern :=
    .repetition .atMostOne true (.capture inside)
  let nested : Regex.Pattern := span (.sequence (.sequence (.atom (.character ';')) word)
    (span (.sequence (.atom (.character ',')) number)))
  let last : Regex.Pattern := span (.sequence (.atom (.character '=')) word)
  let pattern : Regex.Pattern := .sequence (.sequence (.atom .caret)
    (.group {} (.sequence (.sequence word nested) last))) (.atom .dollar)
  let letters : Regex.Node := .repetition .atLeastOne true (.set .unicode (.ofRange 97 122))
  let digits : Regex.Node := .repetition .atLeastOne true (.set .unicode (.ofRange 48 57))
  let option (group : Nat) (inside : Regex.Node) : Regex.Node :=
    .repetition .atMostOne true (.capture group inside)
  let nestedNode : Regex.Node := option 2 (.sequence
    (.sequence (.character ';') (.capture 3 letters))
    (option 4 (.sequence (.character ',') (.capture 5 digits))))
  let node : Regex.Node := .sequence (.sequence (.sequence (.sequence (.assertion .textStart)
    (.capture 1 letters)) nestedNode)
    (option 6 (.sequence (.character '=') (.capture 7 letters)))) (.assertion .textEnd)
  let compiled : Compiled := ⟨record.template "a",
    "^(?:([a-z]+)(;([a-z]+)(,([0-9]+))?)?(=([a-z]+))?)$", .ofNode node, options⟩
  have built : compiled.IsBuiltFrom dictionary := by
    have read : Regex.Pattern.read compiled.expression.toList = .ok pattern := by cbv
    have made : pattern.toNode {} = .ok node := by cbv
    refine ⟨by cbv, ?_⟩
    exact Regex.Program.compile_eq_ok_iff.mpr ⟨pattern, node, read, made, by decide, rfl⟩
  have compiles : (compile (record.template "a").source dictionary options).outcome =
      .ok compiled := by
    refine outcome_compile.mpr ⟨?_, rfl, built⟩
    obtain ⟨named, names⟩ := List.forall_mem_cons.mp clear.names
    exact Template.read_source ⟨named, rfl,
      canonical_toTemplate (fun name member => ⟨names name member, rfl⟩) clear.separators⟩
  have fragments : ∀ name ∈ (record.template "a").fieldNames,
      dictionary.fragment name = some (kinds name).fragment := by
    intro name _
    dsimp only [dictionary, kinds]
    split <;> rfl
  have lettered {value : String} (accepts : ValueKind.letters.Accepts value) {name : String}
      (other : name ≠ "c") : (kinds name).Accepts value := by
    rwa [show kinds name = .letters from if_neg other]
  have first : (kinds "a").Accepts "ab" :=
    lettered ⟨by decide, by simp [ValueKind.Holds]⟩ (by decide)
  have second : (kinds "b").Accepts "x" :=
    lettered ⟨by decide, by simp [ValueKind.Holds]⟩ (by decide)
  have third : (kinds "d").Accepts "yz" :=
    lettered ⟨by decide, by simp [ValueKind.Holds]⟩ (by decide)
  have filled : record.Filled kinds
      ([⟨"b", some "x"⟩, ⟨"c", none⟩] ++ [⟨"d", some "yz"⟩]) (";x".toList ++ "=yz".toList) :=
    .present second (.absent .nil) (.present third .nil .nil)
  obtain ⟨fields, all, parsed, parsedAll, some, every⟩ :=
    parse_of_filled clear fragments rfl rfl compiles first filled
  exact ⟨compiled, fields, all, compiles, by cbv, parsed, (some "b" "x").mpr (by simp),
    (some "d" "yz").mpr (by simp), parsedAll, (every "c" none).mpr (by simp)⟩

end Compiled

end Stencil
