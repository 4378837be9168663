import Mathlib
import Stencil.Proofs.Template.Canonical
import Stencil.Regex.SyntaxFault
/-!
# Joining texts

A text that can be read keeps its template when other text is put behind it, and what is
read behind it is what is read of the other text alone, so far as no literal runs over the
seam. In angle brackets a balanced text is the inside of a span. Faults are those of the
parts, and their offsets count the text in front.
-/
namespace Stencil

open Text (byteLength)

namespace Template

variable {α β : Type} {dictionary : Dictionary}

/-! ## Offsets -/

/-- An entry about a text that has `offset` more bytes in front. -/
def shiftEntry (offset : Nat) : Entry → Entry
  | .foundOptional start stop => .foundOptional (start + offset) (stop + offset)
  | entry => entry

/-- What is read of a text that has `offset` more bytes in front. -/
def shifted (offset : Nat) (reading : Logged Fault α) : Logged Fault α :=
  ⟨reading.log.map (shiftEntry offset), reading.outcome.mapError (Fault.shift offset)⟩

@[simp] theorem shifted_pure (offset : Nat) (value : α) :
    shifted offset (pure value) = pure value := rfl

@[simp] theorem shifted_emit (offset : Nat) (entry : Entry) :
    shifted offset (Logged.emit entry) = Logged.emit (shiftEntry offset entry) := rfl

@[simp] theorem shifted_fail (offset : Nat) (fault : Fault) :
    shifted offset (Logged.fail fault : Logged Fault α) = Logged.fail (fault.shift offset) := rfl

theorem shifted_bind (offset : Nat) (first : Logged Fault α) (next : α → Logged Fault β) :
    shifted offset (first >>= next) =
      (shifted offset first >>= fun value => shifted offset (next value)) := by
  obtain ⟨log, outcome⟩ := first
  cases outcome with
  | error fault => rfl
  | ok value =>
    show shifted offset (Logged.bind ⟨log, .ok value⟩ next) = _
    simp only [Logged.bind, shifted, List.map_append]
    rfl

/-- Offsets count from the start of the source, wherever a window stands in it. -/
theorem readWindow_add (offset more : Nat) (window : List Char) :
    readWindow dictionary (offset + more) window =
      shifted more (readWindow dictionary offset window) := by
  induction offset, window using readWindow.induct dictionary with
  | case1 offset => simp
  | case2 offset c rest text after cut ih =>
    rw [readWindow_of_literal cut, readWindow_of_literal cut, shifted_bind, ← ih,
      Nat.add_right_comm]
    rfl
  | case3 offset c rest name after cut stop known ih =>
    have behind : offset + more + byteLength name + 2 = stop + more := by omega
    rw [readWindow_of_placeholder cut, readWindow_of_placeholder cut, if_pos known, if_pos known,
      behind, ih, shifted_bind, shifted_emit]
    simp only [shifted_bind, shifted_pure]
    rfl
  | case4 offset c rest name after cut unknown =>
    have behind : offset + more + byteLength name + 2 = offset + byteLength name + 2 + more := by
      omega
    rw [readWindow_of_placeholder cut, readWindow_of_placeholder cut, if_neg unknown,
      if_neg unknown, behind]
    rfl
  | case5 offset c rest inside after cut close ihInside ihRest =>
    have opening : offset + more + 1 = offset + 1 + more := by omega
    have closing : offset + 1 + more + byteLength inside = close + more := by omega
    have behind : close + more + 1 = close + 1 + more := by omega
    rw [readWindow_of_optional cut, readWindow_of_optional cut, opening, closing, behind,
      ihInside, ihRest, shifted_bind, shifted_emit]
    simp only [shifted_bind, shifted_pure]
    rfl
  | case6 offset c rest kind cut =>
    have behind : offset + more + 1 = offset + 1 + more := by omega
    rw [readWindow_of_unclosed cut, readWindow_of_unclosed cut]
    simp only [Fault.unclosed, shifted_fail, Fault.shift, ByteSpan.shift, behind]

/-! ## Texts in a row -/

/-- One template and then another. Literals that meet are one. -/
def join : Template → Template → Template
  | nil, other => other
  | literal text nil, other => prependLiteral text other
  | literal text rest, other => literal text (rest.join other)
  | placeholder name rest, other => placeholder name (rest.join other)
  | optional inside rest, other => optional inside (rest.join other)

private theorem prependLiteral_append (text more : String) (template : Template) :
    prependLiteral (text ++ more) template =
      prependLiteral text (prependLiteral more template) := by
  cases template <;> simp [prependLiteral, String.append_assoc]

theorem join_prependLiteral (text : String) (template other : Template) :
    (prependLiteral text template).join other = prependLiteral text (template.join other) := by
  cases template with
  | nil => rfl
  | literal more rest =>
    cases rest with
    | nil =>
      show prependLiteral (text ++ more) other = prependLiteral text (prependLiteral more other)
      exact prependLiteral_append text more other
    | literal | placeholder | optional => rfl
  | placeholder name rest => rfl
  | optional inside rest => rfl

namespace Cut

variable {c : Char} {rest text name inside after : List Char}

private theorem braces_append {tail : List Char}
    (closed : rest.dropWhile continuesBraces = '}' :: tail) (more : List Char) :
    (rest ++ more).dropWhile continuesBraces = '}' :: (tail ++ more) ∧
      (rest ++ more).takeWhile continuesBraces = rest.takeWhile continuesBraces := by
  have whole := List.takeWhile_append_dropWhile (p := continuesBraces) (l := rest)
  rw [closed] at whole
  have all : ∀ d ∈ rest.takeWhile continuesBraces, continuesBraces d = true :=
    fun d member => List.mem_takeWhile_imp member
  constructor
  · rw [List.dropWhile_append, closed]
    rfl
  · have split : rest ++ more = rest.takeWhile continuesBraces ++ '}' :: (tail ++ more) := by
      rw [← List.cons_append, ← List.append_assoc, whole]
    rw [split, List.takeWhile_append_of_pos all]
    simp [continuesBraces]

/-- A first literal goes on into the text behind it. -/
theorem first_append_of_literal (cut : first c rest = literal text after) (more : List Char) :
    first c (rest ++ more) = ofLiteral c (rest ++ more) := by
  apply first_eq_iff.mpr
  cases first_eq_iff.mp cut with
  | unnamed brace held closed other =>
    obtain ⟨behind, same⟩ := braces_append closed more
    exact .unnamed brace (same.trans held) behind other
  | plain brace angle => exact .plain brace angle

theorem first_append_of_placeholder (cut : first c rest = placeholder name after)
    (more : List Char) : first c (rest ++ more) = placeholder name (after ++ more) := by
  apply first_eq_iff.mpr
  cases first_eq_iff.mp cut with
  | named brace held closed valid =>
    obtain ⟨behind, same⟩ := braces_append closed more
    exact .named brace (same.trans held) behind valid

theorem first_append_of_optional (cut : first c rest = optional inside after)
    (more : List Char) : first c (rest ++ more) = optional inside (after ++ more) := by
  apply first_eq_iff.mpr
  cases first_eq_iff.mp cut with
  | spanned angle found => exact .spanned angle (splitAtClose_append found more)

end Cut

/-- Literal text in front of a window takes in the literal that the window begins with. -/
private theorem outcome_readWindow_run (offset : Nat) (front : String) (window : List Char) :
    (readWindow dictionary offset window).outcome.map (prependLiteral front) =
      (readWindow dictionary (offset + byteLength (window.takeWhile continuesLiteral))
        (window.dropWhile continuesLiteral)).outcome.map
          (prependLiteral (front ++ String.ofList (window.takeWhile continuesLiteral))) := by
  cases window with
  | nil => simp
  | cons c rest =>
    by_cases plain : continuesLiteral c = true
    · have cut : Cut.first c rest = Cut.ofLiteral c rest := by
        have marks : c ≠ '{' ∧ c ≠ '<' := by simpa [continuesLiteral] using plain
        exact Cut.first_eq_iff.mpr (.plain marks.1 marks.2)
      rw [readWindow_of_literal cut, Logged.outcome_map, List.takeWhile_cons_of_pos plain,
        List.dropWhile_cons_of_pos plain]
      cases (readWindow dictionary _ _).outcome with
      | error fault => rfl
      | ok following => exact congrArg Except.ok (prependLiteral_append _ _ _).symm
    · rw [List.takeWhile_cons_of_neg plain, List.dropWhile_cons_of_neg plain]
      simp

/-- A literal in front of other text is read as far as it goes, whether it ends at the seam or
runs over it. -/
theorem outcome_readWindow_of_literal {c : Char} {rest text after : List Char}
    (cut : Cut.first c rest = .literal text after) (offset : Nat) (more : List Char) :
    (readWindow dictionary offset (c :: rest ++ more)).outcome =
      (readWindow dictionary (offset + byteLength text) (after ++ more)).outcome.map
        (prependLiteral (String.ofList text)) := by
  obtain ⟨whole, _⟩ := Cut.first_eq_literal cut
  obtain ⟨rfl, _, _⟩ := first_eq_text cut
  have parts := List.takeWhile_append_dropWhile (p := continuesLiteral) (l := rest)
  have behind : rest.dropWhile continuesLiteral = after := by
    apply List.append_cancel_left
    rw [parts]
    exact (List.cons.inj whole).2
  have cut' := Cut.first_append_of_literal cut more
  rw [Cut.ofLiteral, List.takeWhile_append, List.dropWhile_append, behind] at cut'
  rw [List.cons_append, readWindow_of_literal cut', Logged.outcome_map]
  cases after with
  | nil =>
    -- the literal runs on up to the first delimiter of the other text
    have run : rest.takeWhile continuesLiteral = rest := by simpa [behind] using parts
    have seam := @outcome_readWindow_run dictionary
      (offset + byteLength (c :: rest)) (String.ofList (c :: rest)) more
    simpa [run, Nat.add_assoc, String.append_assoc] using seam.symm
  | cons d after =>
    have short : (rest.takeWhile continuesLiteral).length ≠ rest.length := by
      have length := congrArg List.length parts
      rw [behind, List.length_append, List.length_cons] at length
      omega
    simp [short]

/-- Text behind a window that can be read is read as if it stood alone. -/
theorem outcome_readWindow_append {window : List Char} {offset : Nat} {template : Template}
    (found : (readWindow dictionary offset window).outcome = .ok template) (more : List Char) :
    (readWindow dictionary offset (window ++ more)).outcome =
      (readWindow dictionary (offset + byteLength window) more).outcome.map template.join := by
  induction offset, window using readWindow.induct dictionary generalizing template with
  | case1 offset =>
    rw [readWindow_nil] at found
    cases found
    cases outcome : (readWindow dictionary offset more).outcome <;> simp [outcome, Except.map, join]
  | case2 offset c rest text after cut ih =>
    rw [readWindow_of_literal cut, Logged.outcome_map] at found
    obtain ⟨following, read, rfl⟩ := Regex.map_eq_ok found
    have whole := (Cut.first_eq_literal cut).1
    rw [outcome_readWindow_of_literal cut, ih read, whole, Text.byteLength_append, Nat.add_assoc]
    cases (readWindow dictionary _ more).outcome with
    | error fault => rfl
    | ok other => exact congrArg Except.ok (join_prependLiteral _ following other).symm
  | case3 offset c rest name after cut stop known =>
    rename_i ih
    rw [readWindow_of_placeholder cut, if_pos known, Logged.emit_bind, Logged.outcome_map] at found
    obtain ⟨following, read, rfl⟩ := Regex.map_eq_ok found
    have whole := (Cut.first_eq_placeholder cut).1
    have length : offset + byteLength (c :: rest) = stop + byteLength after := by
      simp only [whole, List.cons_append, Text.byteLength_cons, Text.byteLength_append,
        Text.utf8Size_delimiters, stop]
      omega
    have cut' := Cut.first_append_of_placeholder cut more
    rw [List.cons_append, readWindow_of_placeholder cut', if_pos known, Logged.emit_bind,
      Logged.outcome_map, ih read, length]
    cases (readWindow dictionary _ more).outcome <;> rfl
  | case4 offset c rest name after cut unknown =>
    rw [readWindow_of_placeholder cut, if_neg unknown] at found
    cases found
  | case5 offset c rest inside after cut close ihInside =>
    rename_i ihRest
    rw [readWindow_of_optional cut, Logged.emit_bind, Logged.outcome_bind_eq_ok] at found
    obtain ⟨within, readInside, found⟩ := found
    rw [Logged.outcome_map] at found
    obtain ⟨following, readRest, rfl⟩ := Regex.map_eq_ok found
    have whole := Cut.first_eq_optional cut
    have length : offset + byteLength (c :: rest) = close + 1 + byteLength after := by
      simp only [whole, List.cons_append, Text.byteLength_cons, Text.byteLength_append,
        Text.utf8Size_delimiters, close]
      omega
    have cut' := Cut.first_append_of_optional cut more
    rw [List.cons_append, readWindow_of_optional cut', Logged.emit_bind,
      Logged.bind_of_ok _ readInside, Logged.outcome_map, ihRest readRest, length]
    cases (readWindow dictionary _ more).outcome <;> rfl
  | case6 offset c rest kind cut =>
    rw [readWindow_of_unclosed cut] at found
    cases found

/-! ## Texts in angle brackets -/

/-- Balanced text in angle brackets is read as a span. -/
theorem outcome_readWindow_of_span {text : List Char} (h : Balanced text) (offset : Nat) :
    (readWindow dictionary offset ('<' :: text ++ ['>'])).outcome =
      (readWindow dictionary (offset + 1) text).outcome.map fun within => optional within nil := by
  have cut := Cut.first_eq_iff.mpr (.spanned rfl (h.splitAtClose []))
  rw [List.cons_append, readWindow_of_optional cut, Logged.emit_bind]
  simp only [readWindow_nil, pure_bind]
  exact Logged.outcome_map _ _

/-! ## Whole texts -/

theorem utf8ByteSize_eq (text : String) : text.utf8ByteSize = byteLength text.toList := by
  have whole (characters : List Char) :
      (String.ofList characters).utf8ByteSize = byteLength characters := by
    induction characters with
    | nil => rfl
    | cons c rest ih => simp [← ih, String.ofList_cons]
  have own := whole text.toList
  rwa [String.ofList_toList] at own

theorem outcome_read (source : String) :
    (read dictionary source).outcome = (readWindow dictionary 0 source.toList).outcome := by
  rw [read, Logged.emit_bind]

/-- What is read of two texts in a row is what is read of each, if the first can be read, and
what is read of a balanced text in angle brackets is a span around what is read of the text.
The offsets of faults count the text in front. -/
theorem read_of_parts (dictionary : Dictionary) :
    (∀ first second template, (read dictionary first).outcome = .ok template →
      (∀ other, (read dictionary second).outcome = .ok other →
        (read dictionary (first ++ second)).outcome = .ok (template.join other)) ∧
      (∀ fault, (read dictionary second).outcome = .error fault →
        (read dictionary (first ++ second)).outcome =
          .error (fault.shift first.utf8ByteSize))) ∧
    (∀ text : String, Balanced text.toList →
      (∀ template, (read dictionary text).outcome = .ok template →
        (read dictionary ("<" ++ text ++ ">")).outcome = .ok (optional template nil)) ∧
      (∀ fault, (read dictionary text).outcome = .error fault →
        (read dictionary ("<" ++ text ++ ">")).outcome = .error (fault.shift 1))) := by
  have moved (offset : Nat) (text : String) :
      (readWindow dictionary (0 + offset) text.toList).outcome =
        (read dictionary text).outcome.mapError (Fault.shift offset) := by
    rw [readWindow_add, outcome_read]
    rfl
  constructor
  · intro first second template found
    rw [outcome_read] at found
    have joined := outcome_readWindow_append found second.toList
    rw [moved, ← String.toList_append, ← outcome_read, ← utf8ByteSize_eq] at joined
    constructor
    · intro other found'
      rw [joined, found']
      rfl
    · intro fault found'
      rw [joined, found']
      rfl
  · intro text balanced
    have spanned := @outcome_readWindow_of_span dictionary _ balanced 0
    have whole : ("<" ++ text ++ ">").toList = '<' :: text.toList ++ ['>'] := by simp
    rw [moved, ← whole, ← outcome_read] at spanned
    constructor
    · intro template found
      rw [spanned, found]
      rfl
    · intro fault found
      rw [spanned, found]
      rfl

/-- A literal runs over the seam, a fault is found behind two characters of three bytes, and
another one within two spans. -/
theorem read_of_three_parts :
    let dictionary : Dictionary := ⟨fun name => if name = "a" then some "(x)" else none,
      fun name => name == "a"⟩
    (read dictionary ("é>" ++ ".<{a}>")).outcome =
        .ok (literal "é>." (optional (placeholder "a" nil) nil)) ∧
      (read dictionary ("é>" ++ "\x7d<")).outcome = .error (.unclosedOptional 4) ∧
      (read dictionary ("<" ++ "-<{a}>" ++ ">")).outcome =
        .ok (optional (literal "-" (optional (placeholder "a" nil) nil)) nil) ∧
      (read dictionary ("<" ++ "<é{b}>" ++ ">")).outcome =
        .error (.unknownPlaceholder "b" ⟨4, 7⟩) := by
  intro dictionary
  obtain ⟨parts, spans⟩ := read_of_parts dictionary
  have front : (read dictionary "é>").outcome = .ok (literal "é>" nil) := by cbv
  have last : (read dictionary ".<{a}>").outcome =
      .ok (literal "." (optional (placeholder "a" nil) nil)) := by cbv
  have unclosed : (read dictionary "\x7d<").outcome = .error (.unclosedOptional 1) := by cbv
  have within : (read dictionary "-<{a}>").outcome =
      .ok (literal "-" (optional (placeholder "a" nil) nil)) := by cbv
  have unknown : (read dictionary "<é{b}>").outcome =
      .error (.unknownPlaceholder "b" ⟨3, 6⟩) := by cbv
  obtain ⟨joined, moved⟩ := parts "é>" ".<{a}>" _ front
  obtain ⟨_, moved'⟩ := parts "é>" "\x7d<" _ front
  refine ⟨joined _ last, moved' _ unclosed, ?_, ?_⟩
  · exact (spans "-<{a}>" (by decide)).1 _ within
  · exact (spans "<é{b}>" (by decide)).2 _ unknown

end Template

end Stencil
