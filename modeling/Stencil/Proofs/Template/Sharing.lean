import Stencil.Proofs.Template.Gating
import Stencil.Proofs.Template.ScanLog
/-!
# Shared dictionaries

What is read under one dictionary is read under another that knows its names, and otherwise the
first name that the other does not know is reported. Sharing a dictionary keeps its fragments
and nothing else. So the same is written, but a name that was promised without a fragment is
unknown, and a name that was held back is known by its fragment.
-/
namespace Stencil

open Text (byteLength)

namespace Template

variable {first second : Dictionary} {inside : Bool}

/-! ## One template under two dictionaries -/

/-- The first name in slot order that a dictionary does not know. -/
def unknownName? (template : Template) (dictionary : Dictionary) : Option String :=
  template.fieldNames.find? fun name => !dictionary.contains name

theorem unknownName?_optional (within rest : Template) (dictionary : Dictionary) :
    (optional within rest).unknownName? dictionary =
      (within.unknownName? dictionary).or (rest.unknownName? dictionary) :=
  List.find?_append

/-- A shared dictionary knows the names that have a fragment. -/
theorem unknownName?_shared (template : Template) (dictionary : Dictionary) :
    template.unknownName? dictionary.shared = template.missingName? dictionary := by
  rw [unknownName?, missingName?]
  congr 1
  funext name
  exact Option.not_isSome _

/-- A canonical template is so for each dictionary that knows its names. -/
theorem Canonical.of_known {template : Template} (h : template.Canonical first inside)
    (known : template.unknownName? second = none) : template.Canonical second inside := by
  induction template generalizing inside with
  | nil => exact h
  | literal text rest ih => exact ⟨h.1, h.2.1, ih h.2.2 known⟩
  | placeholder name rest ih =>
    have names := List.find?_eq_none.mp known
    have own : second.contains name = true := by simpa using names name List.mem_cons_self
    have others : rest.unknownName? second = none :=
      List.find?_eq_none.mpr fun other member => names other (List.mem_cons_of_mem _ member)
    exact ⟨h.1, own, ih h.2.2 others⟩
  | optional within rest ihInside ihRest =>
    rw [unknownName?_optional, Option.or_eq_none_iff] at known
    exact ⟨ihInside h.1 known.1, ihRest h.2 known.2⟩

/-- Under any other dictionary the first unknown name is reported, as all in front of it can be
read. -/
theorem Canonical.fails {template : Template} {name : String}
    (h : template.Canonical first inside) (unknown : template.unknownName? second = some name)
    (offset : Nat) : ∃ start, Fails second offset template.characters
      (.unknownPlaceholder name ⟨start, start + name.utf8ByteSize + 2⟩) := by
  induction template generalizing inside offset with
  | nil => cases unknown
  | literal text rest ih =>
    have own : (literal text nil).Canonical second inside := ⟨h.1, rfl, trivial⟩
    have readable : IsReadable second text.toList := by simpa [characters] using own.isReadable
    obtain ⟨start, fails⟩ := ih h.2.2 unknown (offset + byteLength text.toList)
    exact ⟨start, fails.behind readable⟩
  | placeholder other rest ih =>
    cases known : second.contains other with
    | false =>
      have same : other = name := by
        rw [unknownName?, fieldNames, List.find?_cons_of_pos (by simp [known])] at unknown
        exact Option.some.inj unknown
      subst same
      have cut := first_of_name h.1 rest.characters
      have missing : second.contains (String.ofList other.toList) = false := by
        rwa [String.ofList_toList]
      have here := @Fails.unknown second offset [] _ _ _ '{' isReadable_nil cut missing
      rw [String.ofList_toList] at here
      refine ⟨offset, ?_⟩
      rw [utf8ByteSize_eq]
      exact here
    | true =>
      rw [unknownName?, fieldNames, List.find?_cons_of_neg (by simp [known])] at unknown
      have readable : IsReadable second ('{' :: other.toList ++ ['}']) :=
        isReadable_of_name h.1 (by rwa [String.ofList_toList])
      obtain ⟨start, fails⟩ := ih h.2.2 unknown
        (offset + byteLength ('{' :: other.toList ++ ['}']))
      exact ⟨start, by simpa [characters] using fails.behind readable⟩
  | optional within rest ihInside ihRest =>
    rw [unknownName?_optional] at unknown
    have balanced := h.1.balanced
    cases inner : within.unknownName? second with
    | some other =>
      rw [inner, Option.some_or] at unknown
      cases unknown
      have cut := Cut.first_eq_iff.mpr (.spanned rfl (balanced.splitAtClose rest.characters))
      obtain ⟨start, fails⟩ := ihInside h.1 inner (offset + byteLength [] + 1)
      have here := Fails.within isReadable_nil cut fails
      exact ⟨start, here⟩
    | none =>
      rw [inner, Option.none_or] at unknown
      have span := (h.1.of_known inner).isReadable.span balanced
      obtain ⟨start, fails⟩ := ihRest h.2 unknown
        (offset + byteLength ('<' :: within.characters ++ ['>']))
      exact ⟨start, by simpa [characters] using fails.behind span⟩

theorem read_of_known {pattern : String} {template : Template}
    (found : (read first pattern).outcome = .ok template)
    (known : template.unknownName? second = none) : read second pattern = read first pattern := by
  obtain ⟨rfl, canonical⟩ := canonical_of_read found
  have again := read_source (canonical.of_known known)
  rw [outcome_read] at found again
  rw [read, read, Logged.emit_bind, Logged.emit_bind, log_readWindow found, log_readWindow again,
    found, again]

theorem read_of_unknown {pattern name : String} {template : Template}
    (found : (read first pattern).outcome = .ok template)
    (unknown : template.unknownName? second = some name) :
    ∃ start, (read second pattern).outcome =
      .error (.unknownPlaceholder name ⟨start, start + name.utf8ByteSize + 2⟩) := by
  obtain ⟨rfl, canonical⟩ := canonical_of_read found
  obtain ⟨start, fails⟩ := canonical.fails unknown 0
  refine ⟨start, ?_⟩
  rw [outcome_read, source, String.toList_ofList]
  exact fails.outcome_eq

/-- A name in braces is read on its own exactly if the dictionary knows it. -/
theorem reads_name_iff {name : String} (named : IsName name.toList) :
    (∃ template, (read first (placeholder name nil).source).outcome = .ok template) ↔
      first.contains name = true := by
  constructor
  · intro reads
    obtain ⟨template, found⟩ := reads
    have canonical := (canonical_of_read found).2
    have own : (placeholder name nil).Canonical ⟨fun _ => none, fun _ => true⟩ false :=
      ⟨named, rfl, trivial⟩
    rw [eq_of_read own found] at canonical
    exact canonical.2.1
  · intro known
    exact ⟨placeholder name nil, read_source ⟨named, known, trivial⟩⟩

end Template

/-! ## A dictionary and its shared view -/

/-- Sharing a dictionary keeps every expression. It keeps every reading exactly if the names that
can stand in braces may be mentioned exactly if they have a fragment, and it keeps all that comes
of a text whose names are such. Where that is not so, a template with a missing fragment is not
read at all any more, and the name is reported as unknown. -/
theorem sharing_keeps_fragments (dictionary : Dictionary) :
    (∀ (template : Template) (options : Options),
      template.expression dictionary.shared options = template.expression dictionary options) ∧
    ((∀ pattern, Template.read dictionary.shared pattern = Template.read dictionary pattern) ↔
      ∀ name : String, Template.IsName name.toList →
        dictionary.contains name = (dictionary.fragment name).isSome) ∧
    (∀ pattern : String, dictionary.shared.AgreesOn dictionary pattern.toList →
      Template.read dictionary.shared pattern = Template.read dictionary pattern ∧
      ∀ options, Compiled.compile pattern dictionary.shared options =
        Compiled.compile pattern dictionary options) ∧
    ∀ pattern template, (Template.read dictionary pattern).outcome = .ok template →
      (template.missingName? dictionary = none →
        Template.read dictionary.shared pattern = Template.read dictionary pattern ∧
        ∀ options, Compiled.compile pattern dictionary.shared options =
          Compiled.compile pattern dictionary options) ∧
      ∀ name, template.missingName? dictionary = some name → ∃ start,
        (Template.read dictionary.shared pattern).outcome =
          .error (.unknownPlaceholder name ⟨start, start + name.utf8ByteSize + 2⟩) ∧
        ∀ options,
          (Compiled.compile pattern dictionary options).outcome = .error (.missingFragment name) ∧
          (Compiled.compile pattern dictionary.shared options).outcome =
            .error (.template (.unknownPlaceholder name
              ⟨start, start + name.utf8ByteSize + 2⟩)) := by
  have written (template : Template) (options : Options) :
      template.expression dictionary.shared options = template.expression dictionary options := by
    have same : template.body dictionary.shared options = template.body dictionary options :=
      Template.body_congr fun _ _ => rfl
    rw [Template.expression, Template.expression, same]
  have compiled {pattern : String}
      (same : Template.read dictionary.shared pattern = Template.read dictionary pattern)
      (options : Options) : Compiled.compile pattern dictionary.shared options =
        Compiled.compile pattern dictionary options :=
    Compiled.compile_congr same fun template _ => written template options
  refine ⟨written, ?_, ?_, ?_⟩
  · constructor
    · intro same name named
      have alike := @Template.reads_name_iff dictionary.shared name named
      rw [same, Template.reads_name_iff named] at alike
      exact Bool.eq_iff_iff.mpr alike
    · intro known pattern
      apply Template.read_congr
      intro name named _
      exact ⟨(known name named).symm, rfl⟩
  · intro pattern agree
    have same := Template.read_congr agree
    exact ⟨same, compiled same⟩
  · intro pattern template found
    rw [← Template.unknownName?_shared]
    constructor
    · intro known
      have same := Template.read_of_known found known
      exact ⟨same, compiled same⟩
    · intro name unknown
      obtain ⟨start, failed⟩ := Template.read_of_unknown found unknown
      rw [Template.unknownName?_shared] at unknown
      refine ⟨start, failed, fun options => ⟨?_, ?_⟩⟩
      · exact Compiled.compile_eq_missing_iff.mpr ⟨template, found, unknown⟩
      · rw [Compiled.outcome_compile_eq, failed]

/-- A promised name stands in a template until the dictionary is shared. Then it is unknown, also
within a span and behind a name that has a fragment. -/
theorem sharing_forgets_promise :
    let dictionary : Dictionary := Dictionary.promising ["ghost"]
      { fragment := fun name => if name = "a" then some "(x)" else none }
    (Template.read dictionary "{ghost}").outcome = .ok (.placeholder "ghost" .nil) ∧
      (Template.read dictionary.shared "{ghost}").outcome =
        .error (.unknownPlaceholder "ghost" ⟨0, 7⟩) ∧
      Template.read dictionary.shared ≠ Template.read dictionary ∧
      Compiled.compile "<{a}>-" dictionary.shared {} = Compiled.compile "<{a}>-" dictionary {} ∧
      (Compiled.compile "{a}<{ghost}>" dictionary {}).outcome =
        .error (.missingFragment "ghost") ∧
      ∃ start, (Compiled.compile "{a}<{ghost}>" dictionary.shared {}).outcome =
        .error (.template (.unknownPlaceholder "ghost" ⟨start, start + 7⟩)) := by
  intro dictionary
  obtain ⟨_, always, _, ofRead⟩ := sharing_keeps_fragments dictionary
  have alone : (Template.read dictionary "{ghost}").outcome = .ok (.placeholder "ghost" .nil) := by
    cbv
  have span : (Template.read dictionary "<{a}>-").outcome =
      .ok (.optional (.placeholder "a" .nil) (.literal "-" .nil)) := by cbv
  have both : (Template.read dictionary "{a}<{ghost}>").outcome =
      .ok (.placeholder "a" (.optional (.placeholder "ghost" .nil) .nil)) := by cbv
  obtain ⟨start, _, failed⟩ := (ofRead _ _ both).2 "ghost" (by decide)
  refine ⟨alone, by cbv, ?_, ((ofRead _ _ span).1 (by decide)).2 {}, (failed {}).1, start,
    (failed {}).2⟩
  intro same
  have known := always.mp (congrFun same) "ghost" (Template.isName_iff.mp (by decide))
  exact absurd known (by decide)

end Stencil
