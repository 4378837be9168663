import Mathlib.Data.List.TakeWhile
import Stencil.Proofs.Template.Brackets
/-!
# Canonical templates

Several templates print the same source, but only one of them is read back. It is the
canonical one: its literals are as long as they can be, and no part of one would be read
as a placeholder or as the edge of a span. Reading and printing are inverse to each other
between the texts that can be read and the canonical templates.
-/
namespace Stencil.Template

/-- A name consists of small letters and hyphens, and there is at least one. -/
def IsName (text : List Char) : Prop :=
  text ≠ [] ∧ ∀ c ∈ text, ('a' ≤ c ∧ c ≤ 'z') ∨ c = '-'

/-- Every opening brace is followed by a closing one, and what stands between it and the
first of those is no name and holds no other delimiter. -/
def BracesClose (text : List Char) : Prop :=
  ∀ before after, text = before ++ '{' :: after →
    ∃ held rest, after = held ++ '}' :: rest ∧
      (∀ c ∈ held, c ≠ '{' ∧ c ≠ '}' ∧ c ≠ '<' ∧ c ≠ '>') ∧ ¬ IsName held

/-- Text that is read as one literal, between the brackets of a span if it stands `inside`
of one. -/
structure IsLiteralText (inside : Bool) (text : List Char) : Prop where
  nonempty : text ≠ []
  opensNothing : '<' ∉ text
  closesNothing : inside = true → '>' ∉ text
  bracesClose : BracesClose text

def startsLiteral : Template → Bool
  | literal _ _ => true
  | _ => false

/-- Literals are maximal and hold no delimiters of their own, and the names of placeholders
are names that the dictionary knows. -/
def Canonical (dictionary : Dictionary) (inside : Bool) : Template → Prop
  | nil => True
  | literal text rest =>
    IsLiteralText inside text.toList ∧ rest.startsLiteral = false ∧
      rest.Canonical dictionary inside
  | placeholder name rest =>
    IsName name.toList ∧ dictionary.contains name = true ∧ rest.Canonical dictionary inside
  | optional within rest => within.Canonical dictionary true ∧ rest.Canonical dictionary inside

theorem prependLiteral_of_apart (text : String) {template : Template}
    (h : template.startsLiteral = false) :
    prependLiteral text template = literal text template := by
  cases template <;> simp_all [prependLiteral, startsLiteral]

theorem isName_iff {text : List Char} : isName text = true ↔ IsName text := by
  have lower (c : Char) : c.isLower = true ↔ 'a' ≤ c ∧ c ≤ 'z' := by
    change (decide _ && decide _) = true ↔ _
    rw [Bool.and_eq_true, decide_eq_true_iff, decide_eq_true_iff]
    exact Iff.rfl
  simp only [isName, IsName, isNameCharacter, lower, Bool.and_eq_true, Bool.not_eq_true',
    List.isEmpty_eq_false_iff, List.all_eq_true, Bool.or_eq_true, beq_iff_eq]

private theorem continuesBraces_iff {c : Char} :
    continuesBraces c = true ↔ c ≠ '{' ∧ c ≠ '}' ∧ c ≠ '<' ∧ c ≠ '>' := by
  simp [continuesBraces, and_assoc]

private theorem continuesLiteral_iff {c : Char} :
    continuesLiteral c = true ↔ c ≠ '{' ∧ c ≠ '<' := by
  simp [continuesLiteral]

/-! ## Braces in literal text -/

/-- The braces of a later part are closed in that part. -/
theorem BracesClose.of_append {first second : List Char} (h : BracesClose (first ++ second)) :
    BracesClose second := by
  intro before after same
  exact h (first ++ before) after (by rw [same, List.append_assoc])

theorem BracesClose.append {first second : List Char} (h : BracesClose first)
    (h' : BracesClose second) : BracesClose (first ++ second) := by
  intro before after same
  rcases List.append_eq_append_iff.1 same with ⟨middle, _, tail⟩ | ⟨middle, front, tail⟩
  · exact h' middle after tail
  · cases middle with
    | nil => exact h' [] after (by simpa using tail.symm)
    | cons c middle =>
      obtain ⟨rfl, behind⟩ : c = '{' ∧ middle ++ second = after := by simpa using tail.symm
      obtain ⟨held, rest, closed, plain, other⟩ := h before middle front
      exact ⟨held, rest ++ second, by simp [← behind, closed], plain, other⟩

theorem bracesClose_of_notMem {text : List Char} (h : '{' ∉ text) : BracesClose text := by
  intro before after same
  exact absurd (by simp [same]) h

/-- A brace that opens literal text is closed before the next delimiter. -/
theorem BracesClose.head {rest : List Char} (h : BracesClose ('{' :: rest)) :
    ∃ held after, rest = held ++ '}' :: after ∧
      (∀ c ∈ held, c ≠ '{' ∧ c ≠ '}' ∧ c ≠ '<' ∧ c ≠ '>') ∧ ¬ IsName held :=
  h [] rest rfl

/-! ## Printed templates are balanced -/

theorem IsName.notMem {name : List Char} (h : IsName name) {c : Char}
    (angle : c = '<' ∨ c = '>') : c ∉ '{' :: name ++ ['}'] := by
  have differs (d : Char) (hd : d = '{' ∨ d = '}') : c ≠ d := by
    rcases angle with rfl | rfl <;> rcases hd with rfl | rfl <;> decide
  simp only [List.cons_append, List.mem_cons, List.mem_append, List.not_mem_nil, or_false, not_or]
  refine ⟨differs _ (.inl rfl), ?_, differs _ (.inr rfl)⟩
  intro member
  have letter := h.2 c member
  rcases angle with rfl | rfl <;> revert letter <;> decide

/-- Within a span the angle brackets of a canonical template close one another. -/
theorem Canonical.balanced {dictionary : Dictionary} {template : Template}
    (h : template.Canonical dictionary true) : Balanced template.characters := by
  induction template with
  | nil => exact .of_notMem List.not_mem_nil List.not_mem_nil
  | literal text rest ih =>
    exact (Balanced.of_notMem h.1.opensNothing (h.1.closesNothing rfl)).append (ih h.2.2)
  | placeholder name rest ih =>
    have braces := Balanced.of_notMem (h.1.notMem (.inl rfl)) (h.1.notMem (.inr rfl))
    simpa [characters] using braces.append (ih h.2.2)
  | optional within rest ihInside ihRest =>
    simpa [characters] using (ihInside h.1).span.append (ihRest h.2)

/-- Anywhere they close one another up to brackets that stand alone and close nothing. -/
theorem Canonical.closesOpened {dictionary : Dictionary} {inside : Bool} {template : Template}
    (h : template.Canonical dictionary inside) : ClosesOpened template.characters := by
  induction template generalizing inside with
  | nil => exact .of_notMem List.not_mem_nil
  | literal text rest ih => exact (ClosesOpened.of_notMem h.1.opensNothing).append (ih h.2.2)
  | placeholder name rest ih =>
    have braces := ClosesOpened.of_notMem (h.1.notMem (.inl rfl))
    simpa [characters] using braces.append (ih h.2.2)
  | optional within rest ihInside ihRest =>
    simpa [characters] using (ihInside h.1).span.append (ihRest h.2)

/-! ## Reading a printed template -/

variable {dictionary : Dictionary} {inside : Bool}

private theorem takeWhile_stop {p : Char → Bool} {held : List Char} {c : Char}
    (all : ∀ d ∈ held, p d = true) (rest : List Char) (stop : p c = false) :
    (held ++ c :: rest).takeWhile p = held ∧ (held ++ c :: rest).dropWhile p = c :: rest := by
  rw [List.takeWhile_append_of_pos all, List.dropWhile_append_of_pos all]
  simp [stop]

theorem takeWhile_before {p : Char → Bool} {rest : List Char}
    (stop : rest.takeWhile p = []) (text : List Char) :
    (text ++ rest).takeWhile p = text.takeWhile p ∧
      (text ++ rest).dropWhile p = text.dropWhile p ++ rest := by
  have whole := List.takeWhile_append_dropWhile (p := p) (l := rest)
  rw [stop, List.nil_append] at whole
  induction text with
  | nil => simp [stop, whole]
  | cons c text ih =>
    by_cases hc : p c = true
    · simp [hc, ih.1, ih.2]
    · simp [hc]

/-- What follows a literal of a canonical template cannot be read as part of it. -/
private theorem takeWhile_characters {template : Template} (h : template.startsLiteral = false) :
    template.characters.takeWhile continuesLiteral = [] := by
  cases template with
  | nil => rfl
  | literal text rest => cases h
  | placeholder name rest => simp [characters, continuesLiteral]
  | optional within rest => simp [characters, continuesLiteral]

/-- Braces around no name are read as text. -/
private theorem first_of_text {c : Char} {body rest : List Char} (opens : '<' ∉ c :: body)
    (closed : BracesClose (c :: body)) (stop : rest.takeWhile continuesLiteral = []) :
    Cut.first c (body ++ rest) =
      .literal (c :: body.takeWhile continuesLiteral)
        (body.dropWhile continuesLiteral ++ rest) := by
  have run := takeWhile_before stop body
  have cut : Cut.ofLiteral c (body ++ rest) =
      .literal (c :: body.takeWhile continuesLiteral)
        (body.dropWhile continuesLiteral ++ rest) := by
    rw [Cut.ofLiteral, run.1, run.2]
  by_cases brace : c = '{'
  · subst brace
    obtain ⟨held, after, rfl, plain, other⟩ := closed.head
    have span := takeWhile_stop (fun d hd => continuesBraces_iff.2 (plain d hd))
      (after ++ rest) (by rfl : continuesBraces '}' = false)
    have same : (held ++ '}' :: after) ++ rest = held ++ '}' :: (after ++ rest) := by simp
    rw [← cut, same]
    apply Cut.first_eq_iff.mpr (.unnamed rfl span.1 span.2 _)
    exact Bool.eq_false_iff.mpr fun name => other (isName_iff.1 name)
  · have angle : c ≠ '<' := fun same => opens (by simp [same])
    rw [← cut]
    exact Cut.first_eq_iff.mpr (.plain brace angle)

/-- A literal is put together again from the stretches between its braces. -/
private theorem readWindow_literal {text rest : List Char} {following : Template}
    (opens : '<' ∉ text) (closed : BracesClose text) (nonempty : text ≠ [])
    (stop : rest.takeWhile continuesLiteral = []) (apart : following.startsLiteral = false)
    (read : ∀ offset, (readWindow dictionary offset rest).outcome = .ok following)
    (offset : Nat) :
    (readWindow dictionary offset (text ++ rest)).outcome =
      .ok (literal (String.ofList text) following) := by
  induction hn : text.length using Nat.strongRecOn generalizing text offset with
  | ind n ih =>
    cases text with
    | nil => exact absurd rfl nonempty
    | cons c body =>
      have cut := first_of_text opens closed stop
      have whole := List.takeWhile_append_dropWhile (p := continuesLiteral) (l := body)
      rw [List.cons_append, readWindow_of_literal cut, Logged.outcome_bind_eq_ok]
      by_cases done : body.dropWhile continuesLiteral = []
      · rw [done, List.append_nil] at whole
        refine ⟨following, by rw [done]; exact read _, ?_⟩
        rw [whole, prependLiteral_of_apart _ apart, Logged.outcome_pure]
      · refine ⟨literal (String.ofList (body.dropWhile continuesLiteral)) following, ?_, ?_⟩
        · have shorter : (body.dropWhile continuesLiteral).length < n := by
            have := (List.dropWhile_suffix (l := body) continuesLiteral).length_le
            rw [← hn, List.length_cons]
            omega
          refine ih _ shorter ?_ ?_ done _ rfl
          · intro member
            apply opens
            exact List.mem_cons_of_mem _ ((List.dropWhile_suffix _).subset member)
          · have parts : BracesClose
                (c :: body.takeWhile continuesLiteral ++ body.dropWhile continuesLiteral) := by
              rw [List.cons_append, whole]
              exact closed
            exact parts.of_append
        · simp only [prependLiteral, Logged.outcome_pure, ← String.ofList_append,
            List.cons_append, whole]

theorem first_of_name {name : List Char} (h : IsName name) (rest : List Char) :
    Cut.first '{' (name ++ '}' :: rest) = .placeholder name rest := by
  have plain (c : Char) (hc : c ∈ name) : continuesBraces c = true := by
    have letter := h.2 c hc
    rw [continuesBraces_iff]
    refine ⟨?_, ?_, ?_, ?_⟩ <;> intro same <;> subst same <;> revert letter <;> decide
  have span := takeWhile_stop plain rest (by rfl : continuesBraces '}' = false)
  exact Cut.first_eq_iff.mpr (.named rfl span.1 span.2 (isName_iff.2 h))

/-- A canonical template is read back from its own source. -/
theorem readWindow_characters {template : Template} (h : template.Canonical dictionary inside)
    (offset : Nat) :
    (readWindow dictionary offset template.characters).outcome = .ok template := by
  induction template generalizing inside offset with
  | nil => simp [characters]
  | literal text rest ih =>
    obtain ⟨valid, apart, following⟩ := h
    have read := readWindow_literal valid.opensNothing valid.bracesClose valid.nonempty
      (takeWhile_characters apart) apart (ih following) offset
    rwa [String.ofList_toList] at read
  | placeholder name rest ih =>
    obtain ⟨valid, known, following⟩ := h
    have cut := first_of_name valid rest.characters
    rw [characters, List.cons_append, readWindow_of_placeholder cut, String.ofList_toList,
      if_pos known, Logged.emit_bind, Logged.outcome_bind_eq_ok]
    exact ⟨rest, ih following _, rfl⟩
  | optional within rest ihWithin ihRest =>
    obtain ⟨inner, following⟩ := h
    have cut := Cut.first_eq_iff.mpr (.spanned rfl (inner.balanced.splitAtClose rest.characters))
    rw [characters, List.cons_append, readWindow_of_optional cut, Logged.emit_bind,
      Logged.outcome_bind_eq_ok]
    refine ⟨within, ihWithin inner _, ?_⟩
    rw [Logged.outcome_bind_eq_ok]
    exact ⟨rest, ihRest following _, rfl⟩

/-! ## What reading yields -/

/-- Braces that hold no name are closed in the literal which they begin. -/
private theorem bracesClose_of_held {held tail : List Char}
    (plain : ∀ c ∈ held, c ≠ '{' ∧ c ≠ '}' ∧ c ≠ '<' ∧ c ≠ '>') (other : ¬IsName held) :
    BracesClose ('{' :: (held ++ '}' :: tail).takeWhile continuesLiteral) := by
  have run : (held ++ '}' :: tail).takeWhile continuesLiteral =
      held ++ '}' :: tail.takeWhile continuesLiteral := by
    rw [List.takeWhile_append_of_pos fun c member =>
      continuesLiteral_iff.2 ⟨(plain c member).1, (plain c member).2.2.1⟩]
    rfl
  have single : '{' ∉ (held ++ '}' :: tail).takeWhile continuesLiteral := by
    intro member
    exact absurd (List.mem_takeWhile_imp member) (by decide)
  rw [run] at single ⊢
  intro before behind same
  cases before with
  | nil =>
    obtain rfl : held ++ '}' :: tail.takeWhile continuesLiteral = behind := by simpa using same
    exact ⟨held, _, rfl, plain, other⟩
  | cons d before =>
    have member : '{' ∈ held ++ '}' :: tail.takeWhile continuesLiteral := by
      rw [(List.cons.inj same).2]
      simp
    exact absurd member single

/-- A literal is cut where the next delimiter stands, and braces at its front hold no name. -/
theorem first_eq_text {c : Char} {rest text after : List Char}
    (cut : Cut.first c rest = .literal text after) :
    text = c :: rest.takeWhile continuesLiteral ∧ c ≠ '<' ∧ BracesClose text := by
  cases Cut.first_eq_iff.mp cut with
  | @unnamed held tail brace same closed other =>
    subst brace
    have whole := List.takeWhile_append_dropWhile (p := continuesBraces) (l := rest)
    have plain (d : Char) (member : d ∈ held) := by
      rw [← same] at member
      exact continuesBraces_iff.1 (List.mem_takeWhile_imp member)
    have braces : BracesClose ('{' :: (held ++ '}' :: tail).takeWhile continuesLiteral) :=
      bracesClose_of_held plain fun name => Bool.eq_false_iff.mp other (isName_iff.2 name)
    rw [← closed, ← same, whole] at braces
    exact ⟨rfl, by decide, braces⟩
  | plain brace angle =>
    refine ⟨rfl, angle, bracesClose_of_notMem ?_⟩
    intro member
    rcases List.mem_cons.1 member with same | member
    · exact brace same.symm
    · exact absurd (List.mem_takeWhile_imp member) (by decide)

/-- A span that is cut off first opens with its bracket and ends where the brackets balance. -/
theorem first_eq_span {c : Char} {rest within after : List Char}
    (cut : Cut.first c rest = .optional within after) :
    c = '<' ∧ splitAtClose 0 rest = some (within, after) := by
  cases Cut.first_eq_iff.mp cut with
  | spanned angle found => exact ⟨angle, found⟩

private theorem IsLiteralText.append {first second : List Char}
    (h : IsLiteralText inside first) (h' : IsLiteralText inside second) :
    IsLiteralText inside (first ++ second) where
  nonempty := by simp [h.nonempty]
  opensNothing := by simp [h.opensNothing, h'.opensNothing]
  closesNothing := by
    intro within
    simp [h.closesNothing within, h'.closesNothing within]
  bracesClose := h.bracesClose.append h'.bracesClose

/-- A literal in front is joined to one that already stands there. -/
private theorem Canonical.prependLiteral {text : List Char} {template : Template}
    (h : template.Canonical dictionary inside) (valid : IsLiteralText inside text) :
    (template.prependLiteral (String.ofList text)).Canonical dictionary inside := by
  cases template with
  | literal more rest =>
    obtain ⟨behind, apart, following⟩ := h
    refine ⟨?_, apart, following⟩
    rw [String.toList_append, String.toList_ofList]
    exact valid.append behind
  | nil | placeholder name rest | optional within rest =>
    refine ⟨?_, rfl, h⟩
    rw [String.toList_ofList]
    exact valid

/-- The first literal of a window is one, and what is behind it closes no more spans around
the window than the window did. -/
theorem isLiteralText_of_first {c : Char} {rest text after : List Char}
    (cut : Cut.first c rest = .literal text after)
    (closes : inside = true → splitAtClose 0 (c :: rest) = none) :
    IsLiteralText inside text ∧ (inside = true → splitAtClose 0 after = none) := by
  obtain ⟨whole, nonempty⟩ := Cut.first_eq_literal cut
  obtain ⟨front, angle, braces⟩ := first_eq_text cut
  have opens : '<' ∉ text := by
    rw [front]
    intro member
    rcases List.mem_cons.1 member with same | member
    · exact angle same.symm
    · exact absurd (List.mem_takeWhile_imp member) (by decide)
  have outside (within : inside = true) : '>' ∉ text ∧ splitAtClose 0 after = none := by
    apply closesNothing_of_splitAtClose opens
    rw [← whole]
    exact closes within
  exact ⟨⟨nonempty, opens, fun within => (outside within).1, braces⟩,
    fun within => (outside within).2⟩

/-- What is read from a window is canonical and prints the window. Brackets that close in
a window around it are not text of an inner one. -/
theorem canonical_of_readWindow {window : List Char} {offset : Nat} {template : Template}
    (read : (readWindow dictionary offset window).outcome = .ok template)
    (closes : inside = true → splitAtClose 0 window = none) :
    template.Canonical dictionary inside ∧ template.characters = window := by
  induction offset, window using readWindow.induct dictionary generalizing template inside with
  | case1 offset =>
    rw [readWindow_nil] at read
    cases read
    exact ⟨trivial, rfl⟩
  | case2 offset c rest text after cut ih =>
    rw [readWindow_of_literal cut, Logged.outcome_bind_eq_ok] at read
    obtain ⟨following, found, same⟩ := read
    cases same
    obtain ⟨whole, _⟩ := Cut.first_eq_literal cut
    obtain ⟨own, outside⟩ := isLiteralText_of_first cut closes
    obtain ⟨valid, printed⟩ := ih found outside
    refine ⟨valid.prependLiteral own, ?_⟩
    rw [characters_prependLiteral, String.toList_ofList, printed, whole]
  | case3 offset c rest name after cut stop known =>
    rename_i ih
    rw [readWindow_of_placeholder cut, if_pos known, Logged.emit_bind,
      Logged.outcome_bind_eq_ok] at read
    obtain ⟨following, found, same⟩ := read
    cases same
    obtain ⟨whole, named⟩ := Cut.first_eq_placeholder cut
    have own : IsName name := isName_iff.1 named
    have outside (within : inside = true) : splitAtClose 0 after = none := by
      have split : c :: rest = ('{' :: name ++ ['}']) ++ after := by simp [whole]
      have none := closes within
      rw [split] at none
      exact (closesNothing_of_splitAtClose (own.notMem (.inl rfl)) none).2
    obtain ⟨valid, printed⟩ := ih found outside
    refine ⟨⟨?_, known, valid⟩, ?_⟩
    · rw [String.toList_ofList]
      exact own
    · rw [characters, String.toList_ofList, printed, whole]
  | case4 offset c rest name after cut unknown =>
    rw [readWindow_of_placeholder cut, if_neg unknown] at read
    cases read
  | case5 offset c rest within after cut close ihInside =>
    rename_i ihRest
    rw [readWindow_of_optional cut, Logged.emit_bind, Logged.outcome_bind_eq_ok] at read
    obtain ⟨inner, readInner, read⟩ := read
    rw [Logged.outcome_bind_eq_ok] at read
    obtain ⟨following, readRest, same⟩ := read
    cases same
    have whole := Cut.first_eq_optional cut
    obtain ⟨rfl, found⟩ := first_eq_span cut
    obtain ⟨unclosed, further⟩ := splitAtClose_found found
    have outside (within : inside = true) : splitAtClose 0 after = none := by
      have none := closes within
      rw [splitAtClose, Option.map_eq_none_iff] at none
      exact further none
    obtain ⟨validInner, printedInner⟩ := ihInside readInner fun _ => unclosed
    obtain ⟨validRest, printedRest⟩ := ihRest readRest outside
    refine ⟨⟨validInner, validRest⟩, ?_⟩
    rw [characters, printedInner, printedRest, whole]
  | case6 offset c rest kind cut =>
    rw [readWindow_of_unclosed cut] at read
    cases read

/-- A window that stands in no span is read as the canonical template that prints it. -/
theorem readWindow_eq_ok_iff {window : List Char} {offset : Nat} {template : Template} :
    (readWindow dictionary offset window).outcome = .ok template ↔
      template.Canonical dictionary false ∧ template.characters = window := by
  constructor
  · intro found
    exact canonical_of_readWindow found fun within => nomatch within
  · intro holds
    obtain ⟨canonical, rfl⟩ := holds
    exact readWindow_characters canonical offset

theorem read_source {template : Template} (h : template.Canonical dictionary false) :
    (read dictionary template.source).outcome = .ok template := by
  rw [read, Logged.emit_bind, source, String.toList_ofList]
  exact readWindow_characters h 0

theorem Canonical.imp {dictionary' : Dictionary} {template : Template}
    (wider : ∀ name, dictionary.contains name = true → dictionary'.contains name = true)
    (h : template.Canonical dictionary inside) : template.Canonical dictionary' inside := by
  induction template generalizing inside with
  | nil => exact h
  | literal text rest ih => exact ⟨h.1, h.2.1, ih h.2.2⟩
  | placeholder name rest ih => exact ⟨h.1, wider name h.2.1, ih h.2.2⟩
  | optional within rest ihInside ihRest => exact ⟨ihInside h.1, ihRest h.2⟩

/-- A canonical template is all that its source is ever read as. -/
theorem eq_of_read {dictionary' : Dictionary} {template other : Template}
    (h : template.Canonical dictionary' false)
    (found : (read dictionary template.source).outcome = .ok other) : other = template := by
  rw [read, Logged.emit_bind, source, String.toList_ofList] at found
  obtain ⟨canonical, printed⟩ := readWindow_eq_ok_iff.mp found
  let every : Dictionary := ⟨fun _ => none, fun _ => true⟩
  have own : template.Canonical every false := h.imp fun _ _ => rfl
  have others : other.Canonical every false := canonical.imp fun _ _ => rfl
  have first := readWindow_characters own 0
  have second := readWindow_characters others 0
  rw [printed] at second
  exact Except.ok.inj (second.symm.trans first)

theorem canonical_of_read {pattern : String} {template : Template}
    (found : (read dictionary pattern).outcome = .ok template) :
    template.source = pattern ∧ template.Canonical dictionary false := by
  rw [read, Logged.emit_bind] at found
  obtain ⟨canonical, printed⟩ := readWindow_eq_ok_iff.mp found
  refine ⟨?_, canonical⟩
  rw [source, printed, String.ofList_toList]

/-- A text is read as a template exactly if the template prints that text and is canonical
for the dictionary. -/
theorem read_eq_ok_iff (dictionary : Dictionary) (pattern : String) (template : Template) :
    (read dictionary pattern).outcome = .ok template ↔
      template.source = pattern ∧ template.Canonical dictionary false := by
  constructor
  · exact canonical_of_read
  · intro holds
    rcases holds with ⟨rfl, canonical⟩
    exact read_source canonical

end Stencil.Template
