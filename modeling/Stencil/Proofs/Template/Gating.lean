import Stencil.Proofs.Template.Faults
import Stencil.Proofs.Template.Fragments
/-!
# What the dictionary decides

A dictionary is asked about the names in braces and nothing else, so two dictionaries that say the
same of those give the same compiled template or the same failure. It decides only which of these
names may stand: a dictionary that knows more names reads all that was read before, finds every
unclosed delimiter again, and gets at least as far where a name was unknown.
-/
namespace Stencil

open Text (byteLength)

/-- Two dictionaries say the same of every name that a text holds in braces. -/
def Dictionary.AgreesOn (first second : Dictionary) (text : List Char) : Prop :=
  ∀ name : String, Template.IsName name.toList → ('{' :: name.toList ++ ['}']) <:+: text →
    first.contains name = second.contains name ∧ first.fragment name = second.fragment name

theorem Dictionary.AgreesOn.of_infix {first second : Dictionary} {part text : List Char}
    (h : first.AgreesOn second text) (within : part <:+: text) : first.AgreesOn second part :=
  fun name named mentioned => h name named (mentioned.trans within)

namespace Template

variable {first second : Dictionary} {offset : Nat} {window : List Char} {fault : Fault}

/-! ## Dictionaries that agree -/

/-- The name that a window begins with is one that it holds. -/
private theorem agrees_of_placeholder {c : Char} {rest name after : List Char}
    (h : first.AgreesOn second (c :: rest)) (cut : Cut.first c rest = .placeholder name after) :
    first.contains (String.ofList name) = second.contains (String.ofList name) ∧
      first.AgreesOn second after := by
  obtain ⟨whole, named⟩ := Cut.first_eq_placeholder cut
  rw [whole] at h
  constructor
  · apply (h (String.ofList name) _ _).1
    · simpa using isName_iff.mp named
    · exact ⟨[], after, by simp⟩
  · apply h.of_infix
    exact ⟨'{' :: name ++ ['}'], [], by simp⟩

theorem readWindow_congr (h : first.AgreesOn second window) :
    readWindow first offset window = readWindow second offset window := by
  induction offset, window using readWindow.induct first with
  | case1 offset => simp
  | case2 offset c rest text after cut ih =>
    have whole := (Cut.first_eq_literal cut).1
    have behind := ih (h.of_infix ⟨text, [], by simp [whole]⟩)
    rw [readWindow_of_literal cut, readWindow_of_literal cut, behind]
  | case3 offset c rest name after cut stop known ih =>
    obtain ⟨same, behind⟩ := agrees_of_placeholder h cut
    rw [readWindow_of_placeholder cut, readWindow_of_placeholder cut, ← same, ih behind]
  | case4 offset c rest name after cut unknown =>
    have same := (agrees_of_placeholder h cut).1
    rw [readWindow_of_placeholder cut, readWindow_of_placeholder cut, ← same, if_neg unknown,
      if_neg unknown]
  | case5 offset c rest inside after cut close ihInside ihRest =>
    have whole := Cut.first_eq_optional cut
    have within := ihInside (h.of_infix ⟨['<'], '>' :: after, by simp [whole]⟩)
    have behind := ihRest (h.of_infix ⟨'<' :: inside ++ ['>'], [], by simp [whole]⟩)
    rw [readWindow_of_optional cut, readWindow_of_optional cut, within, behind]
  | case6 offset c rest kind cut =>
    rw [readWindow_of_unclosed cut, readWindow_of_unclosed cut]

/-- The names of a template stand in braces in its source. -/
theorem infix_of_mem_fieldNames {template : Template} {name : String}
    (member : name ∈ template.fieldNames) :
    ('{' :: name.toList ++ ['}']) <:+: template.characters := by
  induction template with
  | nil => cases member
  | literal text rest ih => exact (ih member).trans (List.suffix_append _ _).isInfix
  | placeholder other rest ih =>
    rcases List.mem_cons.mp member with rfl | behind
    · exact ⟨[], rest.characters, by simp [characters]⟩
    · exact (ih behind).trans ⟨'{' :: other.toList ++ ['}'], [], by simp [characters]⟩
  | optional inside rest ihInside ihRest =>
    rcases List.mem_append.mp member with within | behind
    · exact (ihInside within).trans ⟨['<'], '>' :: rest.characters, by simp [characters]⟩
    · exact (ihRest behind).trans ⟨'<' :: inside.characters ++ ['>'], [], by simp [characters]⟩

theorem body_congr {template : Template} {options : Options}
    (same : ∀ name ∈ template.fieldNames, first.fragment name = second.fragment name) :
    template.body first options = template.body second options := by
  induction template with
  | nil => rfl
  | literal text rest ih => rw [body, body, ih same]
  | placeholder name rest ih =>
    obtain ⟨own, others⟩ := List.forall_mem_cons.mp same
    rw [body, body, own, ih others]
  | optional inside rest ihInside ihRest =>
    obtain ⟨within, behind⟩ := List.forall_mem_append.mp same
    rw [body, body, ihInside within, ihRest behind]

/-- What is read under one of two dictionaries that agree is written alike under both. -/
theorem expression_congr {pattern : String} {template : Template} (options : Options)
    (h : first.AgreesOn second pattern.toList)
    (found : (read first pattern).outcome = .ok template) :
    template.expression first options = template.expression second options := by
  obtain ⟨printed, canonical⟩ := canonical_of_read found
  have same : template.body first options = template.body second options := by
    apply body_congr
    intro name member
    apply (h name (canonical.contains_of_mem name member).1 _).2
    rw [← printed, source, String.toList_ofList]
    exact infix_of_mem_fieldNames member
  rw [expression, expression, same]

theorem read_congr {pattern : String} (h : first.AgreesOn second pattern.toList) :
    read first pattern = read second pattern := by
  rw [read, read, readWindow_congr h]

/-! ## Dictionaries that know more names -/

theorem IsReadable.imp {text : List Char} (h : IsReadable first text)
    (wider : ∀ name, first.contains name = true → second.contains name = true) :
    IsReadable second text := by
  obtain ⟨template, canonical, rfl⟩ := h.canonical
  exact (canonical.imp wider).isReadable

/-- A fault stands within its window. -/
theorem Fails.start_bounds (h : Fails first offset window fault) :
    offset ≤ fault.span.start ∧ fault.span.start < offset + byteLength window := by
  obtain ⟨before, marked, after, rfl, nonempty, span, _⟩ := h.explains
  rw [span]
  simp only [Text.byteLength_append]
  omega

/-- Behind text that can be read there is a fault, or there is none. -/
theorem IsReadable.or_fails {front : List Char} (h : IsReadable first front) (offset : Nat)
    (rest : List Char) : IsReadable first (front ++ rest) ∨
      ∃ fault, Fails first offset (front ++ rest) fault ∧
        offset + byteLength front ≤ fault.span.start := by
  cases read : (readWindow first (offset + byteLength front) rest).outcome with
  | ok template => exact .inl (h.append (isReadable_of_readWindow read))
  | error fault =>
    have fails := Fails.of_readWindow read
    exact .inr ⟨fault, fails.behind h, fails.start_bounds.1⟩

/-- A dictionary that knows more names reports the same fault, unless it knows the name that was
unknown: then it reads on, and any other fault it finds stands further right. -/
theorem Fails.of_wider (wider : ∀ name, first.contains name = true → second.contains name = true)
    (h : Fails first offset window fault) :
    Fails second offset window fault ∨
      (∃ name, fault.kind = .unknownPlaceholder name) ∧
        (IsReadable second window ∨ ∃ other, Fails second offset window other ∧
          fault.span.start < other.span.start) := by
  induction h with
  | @unclosed offset front rest c kind readable cut =>
    exact .inl (.unclosed (readable.imp wider) cut)
  | @unknown offset front rest name after c readable cut missing =>
    by_cases known : second.contains (String.ofList name) = true
    · obtain ⟨whole, named⟩ := Cut.first_eq_placeholder cut
      have further := (readable.imp wider).append (isReadable_of_name (isName_iff.mp named) known)
      refine .inr ⟨⟨_, rfl⟩, ?_⟩
      have parts : front ++ c :: rest = front ++ ('{' :: name ++ ['}']) ++ after := by
        simp [whole]
      rw [parts]
      refine (further.or_fails offset after).imp_right ?_
      intro later
      obtain ⟨other, fails, start⟩ := later
      refine ⟨other, fails, ?_⟩
      simp only [List.cons_append, Text.byteLength_append, Text.byteLength_cons,
        Text.utf8Size_delimiters] at start
      show offset + byteLength front < other.span.start
      omega
    · exact .inl (.unknown (readable.imp wider) cut (Bool.eq_false_iff.mpr known))
  | @within offset front rest inside after c fault readable cut fails ih =>
    have outer := readable.imp wider
    rcases ih with same | ⟨unknown, inner | ⟨other, later, start⟩⟩
    · exact .inl (.within outer cut same)
    · obtain ⟨rfl, found⟩ := first_eq_span cut
      have span := inner.span (Balanced.of_splitAtClose found)
      have parts : front ++ '<' :: rest = front ++ ('<' :: inside ++ ['>']) ++ after := by
        simp [splitAtClose_eq found]
      rw [parts]
      refine .inr ⟨unknown, ((outer.append span).or_fails offset after).imp_right ?_⟩
      intro behind
      obtain ⟨other, later, start⟩ := behind
      refine ⟨other, later, ?_⟩
      have bounds := fails.start_bounds
      simp only [List.cons_append, Text.byteLength_append, Text.byteLength_cons,
        Text.utf8Size_delimiters] at start
      omega
    · exact .inr ⟨unknown, .inr ⟨other, .within outer cut later, start⟩⟩

/-! ## Both together -/

/-- Two dictionaries that say the same of the names in braces give the same compiled template or
the same failure. A dictionary that knows more names reads what was read before, and reports an
unclosed delimiter again. Where a name was unknown it reports that again, or it finds no fault, or
one further right. -/
theorem dictionary_gates (pattern : String) (first second : Dictionary) :
    (first.AgreesOn second pattern.toList → ∀ options,
      Compiled.compile pattern first options = Compiled.compile pattern second options) ∧
    ((∀ name, first.contains name = true → second.contains name = true) →
      (∀ template, (read first pattern).outcome = .ok template →
        (read second pattern).outcome = .ok template) ∧
      ∀ fault, (read first pattern).outcome = .error fault →
        (fault.kind = .unclosedPlaceholder ∨ fault.kind = .unclosedOptional →
          (read second pattern).outcome = .error fault) ∧
        ∀ name, fault.kind = .unknownPlaceholder name →
          (read second pattern).outcome = .error fault ∨
          (∃ template, (read second pattern).outcome = .ok template) ∨
          ∃ other, (read second pattern).outcome = .error other ∧
            fault.span.start < other.span.start) := by
  constructor
  · intro h options
    exact Compiled.compile_congr (read_congr h) fun template found =>
      expression_congr options h found
  · intro wider
    constructor
    · intro template found
      obtain ⟨printed, canonical⟩ := canonical_of_read found
      rw [← printed]
      exact read_source (canonical.imp wider)
    · intro fault failed
      rw [outcome_read] at failed ⊢
      rcases (Fails.of_readWindow failed).of_wider wider with same | ⟨⟨name, kind⟩, further⟩
      · exact ⟨fun _ => same.outcome_eq, fun _ _ => .inl same.outcome_eq⟩
      · constructor
        · intro unclosed
          rw [kind] at unclosed
          rcases unclosed with impossible | impossible <;> cases impossible
        · intro _ _
          right
          rcases further with readable | ⟨other, fails, start⟩
          · exact .inl (readable 0)
          · exact .inr ⟨other, fails.outcome_eq, start⟩

/-- Names that stand nowhere in braces do not matter. An unclosed bracket is reported under a
dictionary that knows more names too, and of two unknown names the second, once the first is
known. -/
theorem gates_of_two_names :
    let first : Dictionary := ⟨fun name => if name = "a" then some "(x)" else none,
      fun name => name == "a"⟩
    let second : Dictionary := ⟨fun name => if name = "a" then some "(x)" else some "(y)",
      fun name => name == "a" || name == "b"⟩
    Compiled.compile "{a}-<{a}>" first {} = Compiled.compile "{a}-<{a}>" second {} ∧
      (read second "<{a}é>").outcome =
        .ok (optional (placeholder "a" (literal "é" nil)) nil) ∧
      (read second "é<{b}").outcome = .error (.unclosedOptional 2) ∧
      (read first "<{b}-{c}>").outcome = .error (.unknownPlaceholder "b" ⟨1, 4⟩) ∧
      ∃ other, (read second "<{b}-{c}>").outcome = .error other ∧ 1 < other.span.start := by
  intro first second
  have agree : first.AgreesOn second "{a}-<{a}>".toList := by
    intro name named mentioned
    obtain ⟨before, after, whole⟩ := mentioned
    have only : ∀ rear ∈ "{a}-<{a}>".toList.tails, rear.head? = some '{' →
        rear.tail.takeWhile (· != '}') = ['a'] := by decide
    have letters : ∀ c ∈ name.toList, (c != '}') = true := by
      intro c member
      have plain : '}' ∉ name.toList := fun brace => by
        have := named.2 '}' brace
        revert this
        decide
      simpa using fun same : c = '}' => plain (same ▸ member)
    have own := only ('{' :: (name.toList ++ '}' :: after))
      ((List.mem_tails _ _).mpr ⟨before, by simpa using whole⟩) rfl
    rw [List.tail_cons, List.takeWhile_append_of_pos letters] at own
    obtain rfl : name = "a" := String.toList_injective (by simpa using own)
    decide
  have wider : ∀ name, first.contains name = true → second.contains name = true := by
    intro name known
    exact Bool.or_eq_true_iff.mpr (.inl known)
  refine ⟨(dictionary_gates _ first second).1 agree {}, ?_, ?_, ?_⟩
  · exact ((dictionary_gates _ first second).2 wider).1 _ (by cbv)
  · have failed : (read first "é<{b}").outcome = .error (.unclosedOptional 2) := by cbv
    exact (((dictionary_gates _ first second).2 wider).2 _ failed).1 (.inr rfl)
  · have failed : (read first "<{b}-{c}>").outcome = .error (.unknownPlaceholder "b" ⟨1, 4⟩) := by
      cbv
    have later : (read second "<{b}-{c}>").outcome = .error (.unknownPlaceholder "c" ⟨5, 8⟩) := by
      cbv
    refine ⟨failed, ?_⟩
    rcases (((dictionary_gates _ first second).2 wider).2 _ failed).2 "b" rfl with
      same | ⟨template, found⟩ | further
    · rw [later] at same
      exact absurd (Except.error.inj same) (by decide)
    · rw [later] at found
      cases found
    · exact further

end Template

end Stencil
