import Stencil.Proofs.Template.Joining
/-!
# Faults

A text that cannot be read has a front that can. Behind it stands a delimiter that is never
closed, a name that the dictionary does not know, or a span with a fault inside. Angle brackets
balance within a span, so one that is never closed stands within none.
-/
namespace Stencil

open Text (byteLength)

namespace Template

variable {dictionary : Dictionary}

/-! ## Where reading fails -/

/-- A text that can be read, wherever it stands. -/
def IsReadable (dictionary : Dictionary) (text : List Char) : Prop :=
  ∀ offset, ∃ template, (readWindow dictionary offset text).outcome = .ok template

theorem Canonical.isReadable {inside : Bool} {template : Template}
    (h : template.Canonical dictionary inside) : IsReadable dictionary template.characters :=
  fun offset => ⟨template, readWindow_characters h offset⟩

theorem isReadable_of_readWindow {offset : Nat} {text : List Char} {template : Template}
    (found : (readWindow dictionary offset text).outcome = .ok template) :
    IsReadable dictionary text := by
  obtain ⟨canonical, rfl⟩ := readWindow_eq_ok_iff.mp found
  exact canonical.isReadable

theorem IsReadable.canonical {text : List Char} (h : IsReadable dictionary text) :
    ∃ template : Template, template.Canonical dictionary false ∧ template.characters = text := by
  obtain ⟨template, found⟩ := h 0
  exact ⟨template, readWindow_eq_ok_iff.mp found⟩

theorem IsReadable.append {first second : List Char} (h : IsReadable dictionary first)
    (h' : IsReadable dictionary second) : IsReadable dictionary (first ++ second) := by
  intro offset
  obtain ⟨template, found⟩ := h offset
  obtain ⟨other, found'⟩ := h' (offset + byteLength first)
  refine ⟨template.join other, ?_⟩
  rw [outcome_readWindow_append found, found']
  rfl

theorem isReadable_nil : IsReadable dictionary [] :=
  fun _ => ⟨nil, by simp⟩

theorem isReadable_of_literal {c : Char} {rest text after : List Char}
    (cut : Cut.first c rest = .literal text after) : IsReadable dictionary text := by
  have own : IsLiteralText false text :=
    (isLiteralText_of_first cut fun within : false = true => by cases within).1
  have canonical : (literal (String.ofList text) nil).Canonical dictionary false :=
    ⟨by rwa [String.toList_ofList], rfl, trivial⟩
  simpa [characters] using canonical.isReadable

theorem isReadable_of_name {name : List Char} (named : IsName name)
    (known : dictionary.contains (String.ofList name) = true) :
    IsReadable dictionary ('{' :: name ++ ['}']) := by
  have canonical : (placeholder (String.ofList name) nil).Canonical dictionary false :=
    ⟨by rwa [String.toList_ofList], known, trivial⟩
  simpa [characters] using canonical.isReadable

theorem IsReadable.span {text : List Char} (h : IsReadable dictionary text)
    (balanced : Balanced text) : IsReadable dictionary ('<' :: text ++ ['>']) := by
  intro offset
  obtain ⟨template, found⟩ := h (offset + 1)
  refine ⟨optional template nil, ?_⟩
  rw [outcome_readWindow_of_span balanced, found]
  rfl

/-- Reading a window that starts at byte `offset` fails behind a front that can be read: at a
delimiter that is never closed, at an unknown name, or within a span. -/
inductive Fails (dictionary : Dictionary) : Nat → List Char → Fault → Prop where
  | unclosed {offset : Nat} {front rest : List Char} {c : Char} {kind : FaultKind}
      (readable : IsReadable dictionary front) (cut : Cut.first c rest = .unclosed kind) :
      Fails dictionary offset (front ++ c :: rest) (.unclosed kind (offset + byteLength front))
  | unknown {offset : Nat} {front rest name after : List Char} {c : Char}
      (readable : IsReadable dictionary front) (cut : Cut.first c rest = .placeholder name after)
      (missing : dictionary.contains (String.ofList name) = false) :
      Fails dictionary offset (front ++ c :: rest)
        (.unknownPlaceholder (String.ofList name)
          ⟨offset + byteLength front, offset + byteLength front + byteLength name + 2⟩)
  | within {offset : Nat} {front rest inside after : List Char} {c : Char} {fault : Fault}
      (readable : IsReadable dictionary front) (cut : Cut.first c rest = .optional inside after)
      (fails : Fails dictionary (offset + byteLength front + 1) inside fault) :
      Fails dictionary offset (front ++ c :: rest) fault

namespace Fails

variable {offset : Nat} {window : List Char} {fault : Fault}

/-- Text that can be read may stand in front. -/
theorem behind {text : List Char} (readable : IsReadable dictionary text)
    (h : Fails dictionary (offset + byteLength text) window fault) :
    Fails dictionary offset (text ++ window) fault := by
  have moved (front : List Char) :
      offset + byteLength text + byteLength front = offset + byteLength (text ++ front) := by
    rw [Text.byteLength_append, Nat.add_assoc]
  cases h with
  | unclosed readable' cut =>
    rw [moved, ← List.append_assoc]
    exact .unclosed (readable.append readable') cut
  | unknown readable' cut missing =>
    rw [moved, ← List.append_assoc]
    exact .unknown (readable.append readable') cut missing
  | within readable' cut fails =>
    rw [moved] at fails
    rw [← List.append_assoc]
    exact .within (readable.append readable') cut fails

theorem of_readWindow (h : (readWindow dictionary offset window).outcome = .error fault) :
    Fails dictionary offset window fault := by
  induction offset, window using readWindow.induct dictionary with
  | case1 offset =>
    rw [readWindow_nil] at h
    cases h
  | case2 offset c rest text after cut ih =>
    rw [readWindow_of_literal cut, Logged.outcome_bind_eq_error] at h
    have fails : Fails dictionary (offset + byteLength text) after fault := by
      rcases h with later | ⟨following, _, impossible⟩
      · exact ih later
      · cases impossible
    rw [(Cut.first_eq_literal cut).1]
    exact fails.behind (isReadable_of_literal cut)
  | case3 offset c rest name after cut stop known ih =>
    rw [readWindow_of_placeholder cut, if_pos known, Logged.emit_bind,
      Logged.outcome_bind_eq_error] at h
    obtain ⟨whole, named⟩ := Cut.first_eq_placeholder cut
    have readable := isReadable_of_name (isName_iff.mp named) known
    have length : stop = offset + byteLength ('{' :: name ++ ['}']) := by
      simp only [List.cons_append, Text.byteLength_cons, Text.byteLength_append,
        Text.byteLength_nil, Text.utf8Size_delimiters, stop]
      omega
    have fails : Fails dictionary stop after fault := by
      rcases h with later | ⟨following, _, impossible⟩
      · exact ih later
      · cases impossible
    rw [length] at fails
    have front := fails.behind readable
    rwa [List.append_assoc, List.singleton_append, ← whole] at front
  | case4 offset c rest name after cut unknown =>
    rw [readWindow_of_placeholder cut, if_neg unknown] at h
    cases h
    have here : Fails dictionary offset ([] ++ c :: rest) _ :=
      .unknown isReadable_nil cut (Bool.eq_false_iff.mpr unknown)
    exact here
  | case5 offset c rest inside after cut close ihInside ihRest =>
    rw [readWindow_of_optional cut, Logged.emit_bind, Logged.outcome_bind_eq_error] at h
    rcases h with within | ⟨template, read, h⟩
    · have here : Fails dictionary offset ([] ++ c :: rest) fault :=
        .within isReadable_nil cut (ihInside within)
      exact here
    · have fails : Fails dictionary (close + 1) after fault := by
        rcases Logged.outcome_bind_eq_error.mp h with later | ⟨following, _, impossible⟩
        · exact ihRest later
        · cases impossible
      have whole := Cut.first_eq_optional cut
      obtain ⟨rfl, found⟩ := first_eq_span cut
      have readable :=
        (isReadable_of_readWindow read).span (Balanced.of_splitAtClose found)
      have length : close + 1 = offset + byteLength ('<' :: inside ++ ['>']) := by
        simp only [List.cons_append, Text.byteLength_cons, Text.byteLength_append,
          Text.byteLength_nil, Text.utf8Size_delimiters, close]
        omega
      rw [length] at fails
      have front := fails.behind readable
      rwa [List.append_assoc, List.singleton_append, ← whole] at front
  | case6 offset c rest kind cut =>
    rw [readWindow_of_unclosed cut] at h
    cases h
    have here : Fails dictionary offset ([] ++ c :: rest) _ := .unclosed isReadable_nil cut
    exact here

/-- Reading fails just as described. -/
theorem outcome_eq (h : Fails dictionary offset window fault) :
    (readWindow dictionary offset window).outcome = .error fault := by
  induction h with
  | @unclosed offset front rest c kind readable cut =>
    obtain ⟨template, found⟩ := readable offset
    rw [outcome_readWindow_append found, readWindow_of_unclosed cut]
    rfl
  | @unknown offset front rest name after c readable cut missing =>
    obtain ⟨template, found⟩ := readable offset
    rw [outcome_readWindow_append found, readWindow_of_placeholder cut,
      if_neg (Bool.eq_false_iff.mp missing)]
    rfl
  | @within offset front rest inside after c fault readable cut fails ih =>
    obtain ⟨template, found⟩ := readable offset
    rw [outcome_readWindow_append found, readWindow_of_optional cut, Logged.emit_bind,
      Logged.outcome_bind_eq_error.mpr (.inl ih)]
    rfl

end Fails

theorem outcome_readWindow_eq_error_iff {offset : Nat} {window : List Char} {fault : Fault} :
    (readWindow dictionary offset window).outcome = .error fault ↔
      Fails dictionary offset window fault :=
  ⟨Fails.of_readWindow, Fails.outcome_eq⟩

/-! ## What faults are about -/

/-- What a fault of each kind says of the text it marks and of the text behind that. -/
def FaultKind.Explains (dictionary : Dictionary) (marked after : List Char) : FaultKind → Prop
  | unclosedPlaceholder =>
    marked = ['{'] ∧ '}' ∉ after.takeWhile fun c => c != '{' && c != '<' && c != '>'
  | unclosedOptional => marked = ['<']
  | unknownPlaceholder name =>
    marked = '{' :: name.toList ++ ['}'] ∧ IsName name.toList ∧ dictionary.contains name = false

/-- What is said of a fault in a span stays true with the end of the span behind it. -/
theorem FaultKind.Explains.append {marked after : List Char} {kind : FaultKind}
    (h : kind.Explains dictionary marked after) (more : List Char) :
    kind.Explains dictionary marked (after ++ '>' :: more) := by
  cases kind with
  | unclosedPlaceholder =>
    refine ⟨h.1, ?_⟩
    rw [(takeWhile_before (by rfl) after).1]
    exact h.2
  | unclosedOptional => exact h
  | unknownPlaceholder name => exact h

/-- Braces that never close run up to another delimiter or to the end of the window. -/
private theorem notMem_of_stops {rest : List Char}
    (stops : ∀ after, rest.dropWhile continuesBraces ≠ '}' :: after) :
    '}' ∉ rest.takeWhile fun c => c != '{' && c != '<' && c != '>' := by
  have whole := List.takeWhile_append_dropWhile (p := continuesBraces) (l := rest)
  have stop : (rest.dropWhile continuesBraces).takeWhile
      (fun c => c != '{' && c != '<' && c != '>') = [] := by
    cases behind : rest.dropWhile continuesBraces with
    | nil => rfl
    | cons d tail =>
      have nonempty : rest.dropWhile continuesBraces ≠ [] := by simp [behind]
      have ends : continuesBraces d = false := by
        simpa only [behind, List.head_cons] using List.head_dropWhile_not continuesBraces nonempty
      have other : d ≠ '}' := fun same => stops tail (by rw [behind, same])
      apply List.takeWhile_cons_of_neg
      simpa [continuesBraces, other] using ends
  rw [← whole, (takeWhile_before stop _).1]
  intro member
  have held := (List.takeWhile_prefix _).subset member
  exact absurd (List.mem_takeWhile_imp held) (by decide)

/-- A delimiter that is never closed is the first character of the window. -/
theorem explains_of_unclosed {c : Char} {rest : List Char} {kind : FaultKind}
    (cut : Cut.first c rest = .unclosed kind) :
    kind.Explains dictionary [c] rest ∧
      (kind = .unclosedOptional → c = '<' ∧ splitAtClose 0 rest = none) := by
  cases Cut.first_eq_iff.mp cut with
  | cutShort brace stops =>
    exact ⟨⟨by rw [brace], notMem_of_stops stops⟩, fun other => nomatch other⟩
  | unspanned angle none =>
    exact ⟨congrArg (fun c => [c]) angle, fun _ => ⟨angle, none⟩⟩

/-- A fault marks a stretch of the window and says something of it. -/
theorem Fails.explains {offset : Nat} {window : List Char} {fault : Fault}
    (h : Fails dictionary offset window fault) :
    ∃ before marked after, window = before ++ marked ++ after ∧ 0 < byteLength marked ∧
      fault.span = ⟨offset + byteLength before,
        offset + byteLength before + byteLength marked⟩ ∧
      fault.kind.Explains dictionary marked after := by
  induction h with
  | @unclosed offset front rest c kind readable cut =>
    obtain ⟨explains, _⟩ := @explains_of_unclosed dictionary c rest kind cut
    have single : byteLength [c] = 1 := by
      cases kind with
      | unclosedPlaceholder => simp [explains.1]
      | unclosedOptional => simp [show [c] = ['<'] from explains]
      | unknownPlaceholder name =>
        have length := congrArg List.length explains.1
        simp at length
    refine ⟨front, [c], rest, by simp, ?_, ?_, explains⟩
    · omega
    · rw [single]
      rfl
  | @unknown offset front rest name after c readable cut missing =>
    obtain ⟨whole, named⟩ := Cut.first_eq_placeholder cut
    refine ⟨front, '{' :: name ++ ['}'], after, by simp [whole], ?_, ?_, ?_⟩
    · simp only [List.cons_append, Text.byteLength_cons, Text.utf8Size_delimiters]
      omega
    · simp [Fault.unknownPlaceholder]
      omega
    · exact ⟨by simp, by simpa using isName_iff.mp named, missing⟩
  | @within offset front rest inside after c fault readable cut fails ih =>
    obtain ⟨before, marked, rear, rfl, nonempty, span, explains⟩ := ih
    have whole := Cut.first_eq_optional cut
    refine ⟨front ++ '<' :: before, marked, rear ++ '>' :: after, by simp [whole], nonempty, ?_,
      explains.append after⟩
    simp only [span, Text.byteLength_append, Text.byteLength_cons, Text.utf8Size_delimiters]
    congr 1 <;> omega

/-! ## Brackets within spans -/

theorem IsReadable.closesOpened {text : List Char} (h : IsReadable dictionary text) :
    ClosesOpened text := by
  obtain ⟨template, canonical, rfl⟩ := h.canonical
  exact canonical.closesOpened

/-- Every bracket within a span is closed there. -/
theorem Fails.kind_ne_of_balanced {offset : Nat} {window : List Char} {fault : Fault}
    (h : Fails dictionary offset window fault) (balanced : Balanced window) :
    fault.kind ≠ .unclosedOptional := by
  induction h with
  | @unclosed offset front rest c kind readable cut =>
    intro same
    obtain ⟨rfl, unclosed⟩ := (@explains_of_unclosed dictionary c rest kind cut).2 same
    have total := (balanced.of_append readable.closesOpened.count_le).total
    exact splitAtClose_eq_none_iff_unbalanced.mp unclosed rest List.prefix_rfl total.symm
  | unknown readable cut missing => exact fun same => nomatch same
  | @within offset front rest inside after c fault readable cut fails ih =>
    exact ih (Balanced.of_splitAtClose (first_eq_span cut).2)

/-- A bracket is reported as never closed exactly where none behind it closes it, if what stands
in front can be read. -/
theorem unclosedOptional_iff {offset start : Nat} {window : List Char} :
    (∃ fault, (readWindow dictionary offset window).outcome = .error fault ∧
      fault.kind = .unclosedOptional ∧ fault.span.start = start) ↔
    ∃ front rest, window = front ++ '<' :: rest ∧ offset + byteLength front = start ∧
      IsReadable dictionary front ∧ splitAtClose 0 rest = none := by
  simp only [outcome_readWindow_eq_error_iff]
  constructor
  · intro holds
    obtain ⟨fault, fails, kind, rfl⟩ := holds
    cases fails with
    | @unclosed _ front rest c kind' readable cut =>
      obtain ⟨rfl, unclosed⟩ := (@explains_of_unclosed dictionary c rest kind' cut).2 kind
      exact ⟨front, rest, rfl, rfl, readable, unclosed⟩
    | unknown readable cut missing => cases kind
    | @within _ front rest inside after c _ readable cut fails =>
      -- brackets within a span are closed there
      exact absurd kind
        (fails.kind_ne_of_balanced (Balanced.of_splitAtClose (first_eq_span cut).2))
  · intro holds
    obtain ⟨front, rest, rfl, rfl, readable, unclosed⟩ := holds
    have cut := Cut.first_eq_iff.mpr (.unspanned rfl unclosed)
    exact ⟨_, .unclosed readable cut, rfl, rfl⟩

/-! ## Faults of whole texts -/

/-- Every fault marks a stretch of the source that is as the fault says. A bracket is reported as
never closed exactly if what stands in front of it can be read and nothing behind it closes it. -/
theorem fault_of_read (dictionary : Dictionary) (pattern : String) :
    (∀ fault, (read dictionary pattern).outcome = .error fault →
      (∃ before marked after : String, pattern = before ++ marked ++ after ∧
        fault.span = ⟨before.utf8ByteSize, before.utf8ByteSize + marked.utf8ByteSize⟩ ∧
        fault.span.start < fault.span.stop ∧
        fault.kind.Explains dictionary marked.toList after.toList) ∧
      (∀ file, (fault.diagnostic file).label.span = fault.span) ∧
      fault.message =
        fault.kind.message ++ " (at byte " ++ toString fault.span.start ++ ")") ∧
    ∀ start, (∃ fault, (read dictionary pattern).outcome = .error fault ∧
        fault.kind = .unclosedOptional ∧ fault.span.start = start) ↔
      ∃ before after : String, pattern = before ++ "<" ++ after ∧ before.utf8ByteSize = start ∧
        (∃ template, (read dictionary before).outcome = .ok template) ∧
        ∀ part, part <+: after.toList → ('<' :: part).count '>' ≠ ('<' :: part).count '<' := by
  constructor
  · intro fault failed
    rw [outcome_read] at failed
    obtain ⟨before, marked, after, whole, nonempty, span, explains⟩ :=
      (Fails.of_readWindow failed).explains
    refine ⟨⟨String.ofList before, String.ofList marked, String.ofList after, ?_, ?_, ?_, ?_⟩,
      fun _ => rfl, rfl⟩
    · rw [← String.ofList_append, ← String.ofList_append, ← whole, String.ofList_toList]
    · rw [span, utf8ByteSize_eq, utf8ByteSize_eq, String.toList_ofList, String.toList_ofList,
        Nat.zero_add]
    · rw [span]
      show 0 + byteLength before < 0 + byteLength before + byteLength marked
      omega
    · rwa [String.toList_ofList, String.toList_ofList]
  · intro start
    rw [outcome_read, unclosedOptional_iff]
    constructor
    · intro holds
      obtain ⟨front, rest, whole, rfl, readable, unclosed⟩ := holds
      refine ⟨String.ofList front, String.ofList rest, ?_, ?_, ?_, ?_⟩
      · apply String.toList_injective
        simp [whole]
      · rw [utf8ByteSize_eq, String.toList_ofList, Nat.zero_add]
      · rw [outcome_read, String.toList_ofList]
        exact readable 0
      · rw [String.toList_ofList]
        exact splitAtClose_eq_none_iff_unbalanced.mp unclosed
    · intro holds
      obtain ⟨before, after, rfl, rfl, ⟨template, found⟩, unbalanced⟩ := holds
      rw [outcome_read] at found
      refine ⟨before.toList, after.toList, by simp, ?_, isReadable_of_readWindow found,
        splitAtClose_eq_none_iff_unbalanced.mpr unbalanced⟩
      rw [utf8ByteSize_eq, Nat.zero_add]

/-- Braces that the end of a span cuts short are reported in the span, and a bracket that is never
closed is reported before the unknown name behind it. -/
theorem fault_of_nested_brace :
    let dictionary : Dictionary := ⟨fun name => if name = "a" then some "(x)" else none,
      fun name => name == "a"⟩
    ((read dictionary "é<{a>}").outcome = .error (.unclosedPlaceholder 3) ∧
      ∃ before marked after : String, "é<{a>}" = before ++ marked ++ after ∧
        (⟨3, 4⟩ : ByteSpan) =
          ⟨before.utf8ByteSize, before.utf8ByteSize + marked.utf8ByteSize⟩ ∧
        FaultKind.unclosedPlaceholder.Explains dictionary marked.toList after.toList) ∧
      ∃ fault, (read dictionary "é<{b}").outcome = .error fault ∧
        fault.kind = .unclosedOptional ∧ fault.span.start = 2 := by
  intro dictionary
  have failed : (read dictionary "é<{a>}").outcome = .error (.unclosedPlaceholder 3) := by cbv
  obtain ⟨⟨before, marked, after, whole, span, _, explains⟩, _⟩ :=
    (fault_of_read dictionary "é<{a>}").1 _ failed
  refine ⟨⟨failed, before, marked, after, whole, span, explains⟩, ?_⟩
  apply ((fault_of_read dictionary "é<{b}").2 2).mpr
  refine ⟨"é", "{b}", by decide, by decide, ⟨literal "é" nil, by cbv⟩, ?_⟩
  intro part within
  have unbalanced : ∀ part ∈ "{b}".toList.inits,
      ('<' :: part).count '>' ≠ ('<' :: part).count '<' := by decide
  exact unbalanced part ((List.mem_inits part _).mpr within)

end Template

end Stencil
