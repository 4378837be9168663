import Stencil.Proofs.Template.Faults
/-!
# The leftmost fault

What stands in front of a fault can be read once the spans that are open there are closed, so
nothing further left is at fault. An unknown name is a fault whatever text follows it, and so are
braces that another delimiter cuts short: the fault can be mended only where it is or before it.
-/
namespace Stencil

open Text (byteLength)

namespace Template

variable {dictionary : Dictionary}

/-! ## Open spans -/

/-- The number of spans that are open between two texts: a bracket in the first opens them, and
one in the second closes them. -/
def openSpans : List Char → List Char → Nat
  | [], _ => 0
  | c :: front, behind =>
    (if c = '<' ∧ splitAtClose 0 front = none ∧ splitAtClose 0 (front ++ behind) ≠ none
      then 1 else 0) + openSpans front behind

/-- Spans that end where they began are not open. -/
theorem openSpans_append {first : List Char} (h : ClosesOpened first)
    (second behind : List Char) :
    openSpans (first ++ second) behind = openSpans second behind := by
  induction first with
  | nil => rfl
  | cons c first ih =>
    have rest := ih h.tail
    rw [List.cons_append, openSpans, rest, if_neg, Nat.zero_add]
    rintro ⟨rfl, unclosed, -⟩
    exact splitAtClose_append_ne_none h.splitAtClose_ne_none second unclosed

theorem openSpans_of_closesOpened {front : List Char} (h : ClosesOpened front)
    (behind : List Char) : openSpans front behind = 0 := by
  have whole := openSpans_append h [] behind
  rwa [List.append_nil] at whole

/-- Where every span has its end, it does not matter what is behind. -/
theorem openSpans_append_behind {front behind : List Char} (h : ClosesOpened (front ++ behind))
    (more : List Char) : openSpans front (behind ++ more) = openSpans front behind := by
  induction front with
  | nil => rfl
  | cons c front ih =>
    rw [openSpans, openSpans, ih h.tail]
    congr 1
    by_cases opens : c = '<'
    · subst opens
      have closed : splitAtClose 0 (front ++ behind) ≠ none := h.splitAtClose_ne_none
      have further : splitAtClose 0 (front ++ (behind ++ more)) ≠ none := by
        rw [← List.append_assoc]
        exact splitAtClose_append_ne_none closed more
      simp [closed, further]
    · simp [opens]

/-- Within a span there is one more span open than in the text inside it. -/
theorem openSpans_within {front before behind : List Char} (closed : ClosesOpened front)
    (balanced : Balanced (before ++ behind)) (after : List Char) :
    openSpans (front ++ '<' :: before) (behind ++ '>' :: after) = openSpans before behind + 1 := by
  have stays : splitAtClose 0 before = none := by
    rw [splitAtClose_eq_none_iff]
    exact balanced.early_of_prefix (List.prefix_append before behind)
  have ends : splitAtClose 0 (before ++ (behind ++ '>' :: after)) ≠ none := by
    rw [← List.append_assoc, balanced.splitAtClose]
    exact Option.some_ne_none _
  rw [openSpans_append closed, openSpans, if_pos ⟨rfl, stays, ends⟩,
    openSpans_append_behind balanced.closesOpened, Nat.add_comm]

/-! ## In front of a fault -/

/-- What stands in front of a fault can be read once the spans that are open there are closed.
Nothing is open in front of a bracket that is never closed. -/
theorem Fails.readable_before {offset : Nat} {window : List Char} {fault : Fault}
    (h : Fails dictionary offset window fault) :
    ∃ front behind, window = front ++ behind ∧
      offset + byteLength front = fault.span.start ∧
      IsReadable dictionary (front ++ List.replicate (openSpans front behind) '>') ∧
      (Balanced window → front.count '<' = front.count '>' + openSpans front behind) ∧
      (fault.kind = .unclosedOptional → openSpans front behind = 0) := by
  have here {front : List Char} (readable : IsReadable dictionary front) (rest : List Char) :
      IsReadable dictionary (front ++ List.replicate (openSpans front rest) '>') ∧
        (Balanced (front ++ rest) → front.count '<' = front.count '>' + openSpans front rest) ∧
        openSpans front rest = 0 := by
    have none := openSpans_of_closesOpened readable.closesOpened rest
    refine ⟨by simpa [none] using readable, ?_, none⟩
    intro balanced
    have early := balanced.early front (List.prefix_append front rest)
    have closed := readable.closesOpened.count_le
    omega
  induction h with
  | @unclosed offset front rest c kind readable cut =>
    obtain ⟨closed, total, none⟩ := here readable (c :: rest)
    exact ⟨front, c :: rest, rfl, rfl, closed, total, fun _ => none⟩
  | @unknown offset front rest name after c readable cut missing =>
    obtain ⟨closed, total, none⟩ := here readable (c :: rest)
    exact ⟨front, c :: rest, rfl, rfl, closed, total, fun _ => none⟩
  | @within offset front rest inside after c fault readable cut fails ih =>
    obtain ⟨before, behind, rfl, start, closed, total, _⟩ := ih
    obtain ⟨rfl, found⟩ := first_eq_span cut
    have balanced := Balanced.of_splitAtClose found
    have spans := openSpans_within readable.closesOpened balanced after
    have total := total balanced
    refine ⟨front ++ '<' :: before, behind ++ '>' :: after, ?_, ?_, ?_, ?_, ?_⟩
    · simp [splitAtClose_eq found]
    · simp only [Text.byteLength_append, Text.byteLength_cons, Text.utf8Size_delimiters]
      omega
    · have inner : Balanced (before ++ List.replicate (openSpans before behind) '>') :=
        .of_early (balanced.early_of_prefix (List.prefix_append before behind)) total
      have span := readable.append (closed.span inner)
      simpa [spans, List.replicate_succ'] using span
    · intro outer
      have early := outer.early front (List.prefix_append front _)
      have own := readable.closesOpened.count_le
      simp only [spans, List.count_append, count_opening]
      omega
    · intro unclosed
      exact absurd unclosed (fails.kind_ne_of_balanced balanced)

/-! ## Faults that no text mends -/

/-- A text that cannot be read whatever text follows it. -/
def Spoiled (dictionary : Dictionary) (text : List Char) : Prop :=
  ∀ offset more, ∃ fault, (readWindow dictionary offset (text ++ more)).outcome = .error fault

namespace Spoiled

variable {front text : List Char}

theorem behind (h : Spoiled dictionary text) (readable : IsReadable dictionary front) :
    Spoiled dictionary (front ++ text) := by
  intro offset more
  obtain ⟨template, found⟩ := readable offset
  obtain ⟨fault, failed⟩ := h (offset + byteLength front) more
  refine ⟨fault, ?_⟩
  rw [List.append_assoc, outcome_readWindow_append found, failed]
  rfl

/-- A span that begins with such a text is at fault, and so is one that never ends. -/
theorem within (h : Spoiled dictionary text)
    (early : ∀ part, part <+: text → part.count '>' ≤ part.count '<') :
    Spoiled dictionary ('<' :: text) := by
  intro offset more
  have split := splitAtClose_of_early 0 early more
  rw [List.cons_append]
  cases found : splitAtClose 0 (text ++ more) with
  | none =>
    have cut := Cut.first_eq_iff.mpr (.unspanned rfl found)
    exact ⟨_, congrArg Logged.outcome (readWindow_of_unclosed cut)⟩
  | some parts =>
    obtain ⟨inside, after⟩ := parts
    obtain ⟨⟨inner, rest⟩, _, same⟩ := Option.map_eq_some_iff.mp (split.symm.trans found)
    cases same
    obtain ⟨fault, failed⟩ := h (offset + 1) inner
    refine ⟨fault, ?_⟩
    have cut := Cut.first_eq_iff.mpr (.spanned rfl found)
    rw [readWindow_of_optional cut, Logged.emit_bind]
    exact Logged.outcome_bind_eq_error.mpr (.inl failed)

/-- A name that the dictionary does not know. -/
theorem of_name {name : List Char} (named : IsName name)
    (unknown : dictionary.contains (String.ofList name) = false) :
    Spoiled dictionary ('{' :: name ++ ['}']) := by
  intro offset more
  have cut := first_of_name named more
  have whole : '{' :: name ++ ['}'] ++ more = '{' :: (name ++ '}' :: more) := by simp
  rw [whole, readWindow_of_placeholder cut, if_neg (by simp [unknown])]
  exact ⟨_, rfl⟩

/-- Braces that another delimiter cuts short. -/
theorem of_brace {held : List Char} {mark : Char} (plain : ∀ c ∈ held, continuesBraces c = true)
    (cuts : mark = '{' ∨ mark = '<' ∨ mark = '>') :
    Spoiled dictionary ('{' :: held ++ [mark]) := by
  intro offset more
  have stop : continuesBraces mark = false := by
    rcases cuts with rfl | rfl | rfl <;> rfl
  have other : mark ≠ '}' := by
    rcases cuts with rfl | rfl | rfl <;> decide
  have behind : (held ++ mark :: more).dropWhile continuesBraces = mark :: more := by
    rw [List.dropWhile_append_of_pos plain]
    simp [stop]
  have cut : Cut.first '{' (held ++ mark :: more) = .unclosed .unclosedPlaceholder := by
    apply Cut.first_eq_iff.mpr (.cutShort rfl _)
    intro after closed
    exact other (List.cons.inj (behind.symm.trans closed)).1
  have whole : '{' :: held ++ [mark] ++ more = '{' :: (held ++ mark :: more) := by simp
  rw [whole, readWindow_of_unclosed cut]
  exact ⟨_, rfl⟩

end Spoiled

/-- A span with a fault inside. -/
theorem Fails.spoiled_span {offset : Nat} {inside : List Char} {fault : Fault}
    (h : Fails dictionary offset inside fault) (balanced : Balanced inside) :
    Spoiled dictionary ('<' :: inside ++ ['>']) := by
  intro start more
  have cut := Cut.first_eq_iff.mpr (.spanned rfl (balanced.splitAtClose more))
  have whole : '<' :: inside ++ ['>'] ++ more = '<' :: (inside ++ '>' :: more) := by simp
  rw [whole, readWindow_of_optional cut, Logged.emit_bind]
  cases read : (readWindow dictionary (start + 1) inside).outcome with
  | error other => exact ⟨other, Logged.outcome_bind_eq_error.mpr (.inl read)⟩
  | ok template =>
    obtain ⟨other, found⟩ := isReadable_of_readWindow read offset
    rw [h.outcome_eq] at found
    cases found

/-- No text mends an unknown name. -/
theorem Fails.spoiled_name {offset : Nat} {window : List Char} {fault : Fault} {name : String}
    (h : Fails dictionary offset window fault) (kind : fault.kind = .unknownPlaceholder name) :
    ∃ front after, window = front ++ ('{' :: name.toList ++ ['}']) ++ after ∧
      fault.span = ⟨offset + byteLength front,
        offset + byteLength front + byteLength ('{' :: name.toList ++ ['}'])⟩ ∧
      Spoiled dictionary (front ++ ('{' :: name.toList ++ ['}'])) := by
  induction h with
  | @unclosed offset front rest c kind' readable cut =>
    obtain rfl : kind' = .unknownPlaceholder name := kind
    have explains := (@explains_of_unclosed dictionary c rest _ cut).1
    have length := congrArg List.length explains.1
    simp at length
  | @unknown offset front rest held after c readable cut missing =>
    obtain rfl : String.ofList held = name := FaultKind.unknownPlaceholder.inj kind
    obtain ⟨whole, named⟩ := Cut.first_eq_placeholder cut
    rw [String.toList_ofList]
    refine ⟨front, after, by simp [whole], ?_, ?_⟩
    · simp [Fault.unknownPlaceholder]
      omega
    · exact (Spoiled.of_name (isName_iff.mp named) missing).behind readable
  | @within offset front rest inside after c fault readable cut fails ih =>
    obtain ⟨before, behind, rfl, span, spoiled⟩ := ih kind
    obtain ⟨rfl, found⟩ := first_eq_span cut
    have balanced := Balanced.of_splitAtClose found
    refine ⟨front ++ '<' :: before, behind ++ '>' :: after, ?_, ?_, ?_⟩
    · simp [splitAtClose_eq found]
    · simp only [span, Text.byteLength_append, Text.byteLength_cons, Text.utf8Size_delimiters]
      congr 1 <;> omega
    · have early := balanced.early_of_prefix (List.prefix_append _ behind)
      simpa using (spoiled.within early).behind readable

/-- No text mends braces that another delimiter cuts short. -/
theorem Fails.spoiled_brace {offset : Nat} {window : List Char} {fault : Fault}
    (h : Fails dictionary offset window fault) (kind : fault.kind = .unclosedPlaceholder) :
    ∃ front after, window = front ++ '{' :: after ∧
      offset + byteLength front = fault.span.start ∧
      ∀ held mark rest, after = held ++ mark :: rest →
        (∀ c ∈ held, c ≠ '{' ∧ c ≠ '<' ∧ c ≠ '>') → (mark = '{' ∨ mark = '<' ∨ mark = '>') →
        Spoiled dictionary (front ++ ('{' :: held ++ [mark])) := by
  induction h with
  | @unclosed offset front rest c kind' readable cut =>
    obtain rfl : kind' = .unclosedPlaceholder := kind
    obtain ⟨single, unclosed⟩ := (@explains_of_unclosed dictionary c rest _ cut).1
    obtain rfl : c = '{' := (List.cons.inj single).1
    refine ⟨front, rest, rfl, rfl, ?_⟩
    rintro held mark more rfl plain cuts
    have passes (c : Char) (member : c ∈ held) :
        (c != '{' && c != '<' && c != '>') = true := by
      simpa [and_assoc] using plain c member
    apply Spoiled.behind _ readable
    apply Spoiled.of_brace _ cuts
    intro c member
    have other : c ≠ '}' := by
      rintro rfl
      apply unclosed
      rw [List.takeWhile_append_of_pos passes]
      exact List.mem_append_left _ member
    simpa [continuesBraces, other, and_assoc] using plain c member
  | @unknown offset front rest held after c readable cut missing => cases kind
  | @within offset front rest inside after c fault readable cut fails ih =>
    obtain ⟨before, behind, rfl, start, spoils⟩ := ih kind
    obtain ⟨rfl, found⟩ := first_eq_span cut
    have balanced := Balanced.of_splitAtClose found
    refine ⟨front ++ '<' :: before, behind ++ '>' :: after, ?_, ?_, ?_⟩
    · simp [splitAtClose_eq found]
    · simp only [Text.byteLength_append, Text.byteLength_cons, Text.utf8Size_delimiters]
      omega
    · intro held mark more split plain cuts
      have whole : Spoiled dictionary (front ++ ('<' :: (before ++ '{' :: behind) ++ ['>'])) :=
        (fails.spoiled_span balanced).behind readable
      rcases List.append_eq_append_iff.mp split with ⟨part, rfl, tail⟩ | ⟨part, rfl, tail⟩
      · -- nothing in the span cuts the braces short, so the end of the span does
        cases part with
        | nil =>
          obtain rfl : '>' = mark := (List.cons.inj tail).1
          simpa using whole
        | cons d part =>
          obtain rfl : '>' = d := (List.cons.inj tail).1
          exact absurd rfl (plain '>' (by simp)).2.2
      · cases part with
        | nil =>
          obtain rfl : mark = '>' := (List.cons.inj tail).1
          simpa using whole
        | cons d part =>
          obtain rfl : mark = d := (List.cons.inj tail).1
          have spoiled := spoils held mark part rfl plain cuts
          have front : before ++ ('{' :: held ++ [mark]) <+:
              before ++ '{' :: (held ++ mark :: part) := ⟨part, by simp⟩
          have early := balanced.early_of_prefix front
          simpa using (spoiled.within early).behind readable

/-! ## Whole texts -/

/-- A text is split at a byte in one way only. -/
theorem eq_of_byteLength {front front' behind behind' : List Char}
    (same : front ++ behind = front' ++ behind') (size : byteLength front = byteLength front') :
    front = front' ∧ behind = behind' := by
  have empty (part : List Char) (none : byteLength part = 0) : part = [] := by
    cases part with
    | nil => rfl
    | cons c part =>
      have := c.utf8Size_pos
      simp at none
      omega
  rcases List.append_eq_append_iff.mp same with ⟨part, rfl, rfl⟩ | ⟨part, rfl, rfl⟩
  · rw [Text.byteLength_append] at size
    simp [empty part (by omega)]
  · rw [Text.byteLength_append] at size
    simp [empty part (by omega)]

theorem Spoiled.read {text : List Char} (h : Spoiled dictionary text) (more : String) :
    ∃ fault, (read dictionary (String.ofList text ++ more)).outcome = .error fault := by
  obtain ⟨fault, failed⟩ := h 0 more.toList
  refine ⟨fault, ?_⟩
  rwa [outcome_read, String.toList_append, String.toList_ofList]

/-- What stands in front of a fault can be read once the spans that are open there are closed, and
in front of a bracket that is never closed there are none. No text behind an unknown name mends it,
and no text behind a delimiter that cuts braces short. -/
theorem fault_is_leftmost (dictionary : Dictionary) (pattern : String) (fault : Fault)
    (failed : (read dictionary pattern).outcome = .error fault) :
    ∃ front behind : String, pattern = front ++ behind ∧
      front.utf8ByteSize = fault.span.start ∧
      (∃ template, (read dictionary (front ++ String.ofList
        (List.replicate (openSpans front.toList behind.toList) '>'))).outcome = .ok template) ∧
      (fault.kind = .unclosedOptional → openSpans front.toList behind.toList = 0) ∧
      (∀ name, fault.kind = .unknownPlaceholder name →
        ∃ marked after : String, behind = marked ++ after ∧
          (front ++ marked).utf8ByteSize = fault.span.stop ∧
          ∀ more, ∃ other, (read dictionary (front ++ marked ++ more)).outcome = .error other) ∧
      (fault.kind = .unclosedPlaceholder → ∃ after, behind = "\x7b" ++ after ∧
        ∀ held mark rest, after = held ++ String.singleton mark ++ rest →
          (∀ c ∈ held.toList, c ≠ '{' ∧ c ≠ '<' ∧ c ≠ '>') →
          (mark = '{' ∨ mark = '<' ∨ mark = '>') → ∀ more, ∃ other,
            (read dictionary (front ++ "\x7b" ++ held ++ String.singleton mark ++ more)).outcome =
              .error other) := by
  rw [outcome_read] at failed
  have fails := Fails.of_readWindow failed
  obtain ⟨front, behind, whole, start, closed, _, none⟩ := fails.readable_before
  have split (front' behind' : List Char) (whole' : pattern.toList = front' ++ behind')
      (start' : 0 + byteLength front' = fault.span.start) : front' = front ∧ behind' = behind :=
    eq_of_byteLength (whole'.symm.trans whole) (by omega)
  refine ⟨String.ofList front, String.ofList behind, ?_, ?_, ?_, ?_, ?_, ?_⟩
  · rw [← String.ofList_append, ← whole, String.ofList_toList]
  · rw [utf8ByteSize_eq, String.toList_ofList, ← start, Nat.zero_add]
  · rw [outcome_read, String.toList_append, String.toList_ofList, String.toList_ofList,
      String.toList_ofList]
    exact closed 0
  · rw [String.toList_ofList, String.toList_ofList]
    exact none
  · intro name kind
    obtain ⟨front', after, whole', span, spoiled⟩ := fails.spoiled_name kind
    obtain ⟨rfl, rfl⟩ := split front' _ (by rw [whole', List.append_assoc]) (by rw [span])
    refine ⟨String.ofList ('{' :: name.toList ++ ['}']), String.ofList after, ?_, ?_, ?_⟩
    · rw [← String.ofList_append]
    · rw [← String.ofList_append, utf8ByteSize_eq, String.toList_ofList, span,
        Text.byteLength_append, Nat.zero_add]
    · intro more
      rw [← String.ofList_append]
      exact spoiled.read more
  · intro kind
    obtain ⟨front', after, whole', start', spoils⟩ := fails.spoiled_brace kind
    obtain ⟨rfl, rfl⟩ := split front' _ whole' start'
    refine ⟨String.ofList after, by rw [String.ofList_cons]; rfl, ?_⟩
    intro held mark rest same plain cuts more
    have text := congrArg String.toList same
    rw [String.toList_ofList] at text
    obtain ⟨other, failed⟩ :=
      (spoils held.toList mark rest.toList (by simpa using text) plain cuts).read more
    refine ⟨other, ?_⟩
    have parts : String.ofList front' ++ "\x7b" ++ held ++ String.singleton mark =
        String.ofList (front' ++ ('{' :: held.toList ++ [mark])) := by
      apply String.toList_injective
      simp
    rwa [parts]

/-- In the second of two spans, text that can be read ends before the unknown name once both are
closed. The end of a span cuts braces short for good. -/
theorem leftmost_fault_of_unknown_name :
    let dictionary : Dictionary := ⟨fun name => if name = "a" then some "(x)" else none,
      fun name => name == "a"⟩
    ((read dictionary "é>-<a<{a}{b}->>").outcome = .error (.unknownPlaceholder "b" ⟨10, 13⟩) ∧
      openSpans "é>-<a<{a}".toList "{b}->>".toList = 2 ∧
      (∃ template, (read dictionary "é>-<a<{a}>>").outcome = .ok template) ∧
      ∀ more, ∃ other, (read dictionary ("é>-<a<{a}{b}" ++ more)).outcome = .error other) ∧
    (read dictionary "<é\x7ba>.").outcome = .error (.unclosedPlaceholder 3) ∧
      ∀ more, ∃ other, (read dictionary ("<é\x7ba>" ++ more)).outcome = .error other := by
  intro dictionary
  have split {front front' behind behind' : String} (same : front ++ behind = front' ++ behind')
      (size : front.utf8ByteSize = front'.utf8ByteSize) : front = front' ∧ behind = behind' := by
    rw [utf8ByteSize_eq, utf8ByteSize_eq] at size
    have lists := eq_of_byteLength (by simpa using congrArg String.toList same) size
    exact ⟨String.toList_injective lists.1, String.toList_injective lists.2⟩
  have unknown : (read dictionary "é>-<a<{a}{b}->>").outcome =
      .error (.unknownPlaceholder "b" ⟨10, 13⟩) := by cbv
  have unclosed : (read dictionary "<é\x7ba>.").outcome = .error (.unclosedPlaceholder 3) := by cbv
  have opened : openSpans "é>-<a<{a}".toList "{b}->>".toList = 2 := by decide
  refine ⟨⟨unknown, opened, ?_⟩, unclosed, ?_⟩
  · obtain ⟨front, behind, whole, start, closed, _, spoiled, _⟩ :=
      fault_is_leftmost dictionary _ _ unknown
    obtain ⟨rfl, rfl⟩ : front = "é>-<a<{a}" ∧ behind = "{b}->>" :=
      split (by rw [← whole]; decide) (by rw [start]; decide)
    obtain ⟨marked, after, whole, stop, unmended⟩ := spoiled "b" rfl
    have size : marked.utf8ByteSize = "{b}".utf8ByteSize := by
      rw [String.utf8ByteSize_append] at stop
      exact Nat.add_left_cancel (stop.trans (by decide))
    obtain ⟨rfl, rfl⟩ : marked = "{b}" ∧ after = "->>" := split (by rw [← whole]; decide) size
    rw [opened] at closed
    exact ⟨closed, unmended⟩
  · obtain ⟨front, behind, whole, start, _, _, _, spoils⟩ :=
      fault_is_leftmost dictionary _ _ unclosed
    obtain ⟨after, rfl, cutShort⟩ := spoils rfl
    obtain ⟨rfl, rest⟩ : front = "<é" ∧ "\x7b" ++ after = "\x7b" ++ "a>." :=
      split (by rw [← whole]; decide) (by rw [start]; decide)
    exact cutShort "a" '>' "." (split rest rfl).2 (by simp) (.inr (.inr rfl))

end Template

end Stencil
