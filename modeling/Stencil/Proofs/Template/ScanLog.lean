import Stencil.Proofs.Template.Joining
import Stencil.Proofs.Template.Numbering
/-!
# The log of reading

Reading logs one entry for each slot, in slot order. The entry of a span has the bytes at which
its brackets stand, so the stretches of two spans lie one within the other as the spans do, and
apart if the spans are.
-/
namespace Stencil

open Text (byteLength)

namespace Template

variable {dictionary : Dictionary}

/-! ## What is logged -/

/-- The entries of a template that begins at byte `offset` of its source. -/
def entriesFrom (offset : Nat) : Template → List Entry
  | nil => []
  | literal text rest => rest.entriesFrom (offset + byteLength text.toList)
  | placeholder name rest =>
    .acceptedPlaceholder name :: rest.entriesFrom (offset + byteLength name.toList + 2)
  | optional inside rest =>
    .foundOptional offset (offset + 1 + byteLength inside.characters) ::
      inside.entriesFrom (offset + 1) ++
        rest.entriesFrom (offset + 1 + byteLength inside.characters + 1)

theorem entriesFrom_prependLiteral (offset : Nat) (text : List Char) (template : Template) :
    (template.prependLiteral (String.ofList text)).entriesFrom offset =
      template.entriesFrom (offset + byteLength text) := by
  cases template <;> simp [prependLiteral, entriesFrom, Nat.add_assoc]

/-- Literals that are put together in the end have logged nothing, so the entries are those of
the template that comes out. -/
theorem log_readWindow {offset : Nat} {window : List Char} {template : Template}
    (found : (readWindow dictionary offset window).outcome = .ok template) :
    (readWindow dictionary offset window).log = template.entriesFrom offset := by
  induction offset, window using readWindow.induct dictionary generalizing template with
  | case1 offset =>
    rw [readWindow_nil] at found ⊢
    cases found
    rfl
  | case2 offset c rest text after cut ih =>
    rw [readWindow_of_literal cut] at found ⊢
    obtain ⟨following, read, same⟩ := Logged.outcome_bind_eq_ok.mp found
    cases same
    rw [Logged.bind_of_ok _ read, entriesFrom_prependLiteral, ← ih read]
    simp
  | case3 offset c rest name after cut stop known =>
    rename_i ih
    rw [readWindow_of_placeholder cut, if_pos known, Logged.emit_bind] at found ⊢
    obtain ⟨following, read, same⟩ := Logged.outcome_bind_eq_ok.mp found
    cases same
    rw [Logged.bind_of_ok _ read, entriesFrom, String.toList_ofList, ← ih read]
    simp [stop]
  | case4 offset c rest name after cut unknown =>
    rw [readWindow_of_placeholder cut, if_neg unknown] at found
    cases found
  | case5 offset c rest inside after cut close ihInside =>
    rename_i ihRest
    rw [readWindow_of_optional cut, Logged.emit_bind] at found ⊢
    obtain ⟨within, readInside, found⟩ := Logged.outcome_bind_eq_ok.mp found
    obtain ⟨following, readRest, same⟩ := Logged.outcome_bind_eq_ok.mp found
    cases same
    have printed := (readWindow_eq_ok_iff.mp readInside).2
    rw [Logged.bind_of_ok _ readInside, Logged.bind_of_ok _ readRest, entriesFrom, printed,
      ← ihInside readInside, ← ihRest readRest]
    simp [close]
  | case6 offset c rest kind cut =>
    rw [readWindow_of_unclosed cut] at found
    cases found

theorem length_entriesFrom (template : Template) (offset : Nat) :
    (template.entriesFrom offset).length = template.groupCount := by
  induction template generalizing offset with
  | nil => rfl
  | literal text rest ih => exact ih _
  | placeholder name rest ih => simp [entriesFrom, groupCount, ih, Nat.add_comm]
  | optional inside rest ihInside ihRest =>
    simp only [entriesFrom, groupCount, List.cons_append, List.length_cons, List.length_append,
      ihInside, ihRest]
    omega

/-! ## What the entries say of the slots -/

/-- An entry says of a slot what it is: a placeholder has its name, and a span stands in the source
from one of the bytes to the other. -/
def Reports (source : String) : Entry → Slot → Prop
  | .acceptedPlaceholder name, .placeholder other => name = other
  | .foundOptional start stop, .optional inside =>
    ∃ before after : String, source = before ++ (optional inside nil).source ++ after ∧
      (optional inside nil).source = "<" ++ inside.source ++ ">" ∧
      before.utf8ByteSize = start ∧ (before ++ "<" ++ inside.source).utf8ByteSize = stop
  | _, _ => False

theorem source_optional (inside : Template) :
    (optional inside nil).source = "<" ++ inside.source ++ ">" := by
  apply String.toList_injective
  simp [source, characters]

theorem reports_entriesFrom (template : Template) {source : String} {before after : List Char}
    (whole : source.toList = before ++ template.characters ++ after) :
    List.Forall₂ (Reports source) (template.entriesFrom (byteLength before)) template.slots := by
  induction template generalizing before after with
  | nil => exact .nil
  | literal text rest ih =>
    have further := @ih (before ++ text.toList) after (by simp [whole, characters])
    simpa [entriesFrom, slots] using further
  | placeholder name rest ih =>
    have further := @ih (before ++ ('{' :: name.toList ++ ['}'])) after
      (by simp [whole, characters])
    have stop : byteLength (before ++ ('{' :: name.toList ++ ['}'])) =
        byteLength before + byteLength name.toList + 2 := by
      simp
      omega
    rw [stop] at further
    exact .cons rfl further
  | optional inside rest ihInside ihRest =>
    have start : byteLength (before ++ ['<']) = byteLength before + 1 := by simp
    have stop : byteLength (before ++ ('<' :: inside.characters ++ ['>'])) =
        byteLength before + 1 + byteLength inside.characters + 1 := by
      simp
      omega
    have within := @ihInside (before ++ ['<']) ('>' :: rest.characters ++ after)
      (by simp [whole, characters])
    have behind := @ihRest (before ++ ('<' :: inside.characters ++ ['>'])) after
      (by simp [whole, characters])
    rw [start] at within
    rw [stop] at behind
    have own : Reports source (.foundOptional (byteLength before)
        (byteLength before + 1 + byteLength inside.characters)) (.optional inside) := by
      refine ⟨String.ofList before, String.ofList (rest.characters ++ after), ?_,
        source_optional inside, ?_, ?_⟩
      · apply String.toList_injective
        simp [whole, Template.source, characters]
      · rw [utf8ByteSize_eq, String.toList_ofList]
      · simp [utf8ByteSize_eq, Template.source, Nat.add_assoc]
    exact List.rel_append (.cons own within) behind

/-! ## How the stretches of spans lie -/

/-- Of two slots with their entries, the later one lies strictly within the first if it is a span
inside the first, and behind the first if it is any other span. -/
def SpansFit (first second : NumberedSlot × Entry) : Prop :=
  ∀ start stop start' stop', first.2 = .foundOptional start stop →
    second.2 = .foundOptional start' stop' →
    if first.1.number ∈ second.1.around then start < start' ∧ stop' < stop else stop < start'

theorem bounds_of_mem_entriesFrom {template : Template} {offset start stop : Nat}
    (member : .foundOptional start stop ∈ template.entriesFrom offset) :
    offset ≤ start ∧ stop < offset + byteLength template.characters := by
  induction template generalizing offset with
  | nil => cases member
  | literal text rest ih =>
    have bounds := ih member
    simp only [characters, Text.byteLength_append]
    omega
  | placeholder name rest ih =>
    have bounds := ih ((List.mem_cons.mp member).resolve_left Entry.noConfusion)
    simp only [characters, List.cons_append, Text.byteLength_cons, Text.byteLength_append,
      Text.utf8Size_delimiters]
    omega
  | optional inside rest ihInside ihRest =>
    simp only [characters, List.cons_append, Text.byteLength_cons, Text.byteLength_append,
      Text.utf8Size_delimiters]
    rw [entriesFrom, List.cons_append, List.mem_cons, List.mem_append] at member
    rcases member with own | within | behind
    · cases own
      omega
    · have bounds := ihInside within
      omega
    · have bounds := ihRest behind
      omega

theorem length_numberFrom (template : Template) (next : Nat) (around : List Nat) :
    (template.numberFrom next around).length = template.groupCount := by
  have numbers := congrArg List.length (numbers_numberFrom template next around)
  rwa [List.length_map, List.length_range'] at numbers

/-- The spans around a slot are those around the whole and some that are numbered within it. -/
theorem around_of_mem_numberFrom {template : Template} {next : Nat} {around : List Nat}
    {slot : NumberedSlot} (member : slot ∈ template.numberFrom next around) :
    (∀ number ∈ around, number ∈ slot.around) ∧
      (∀ number ∈ slot.around, number ∈ around ∨ next ≤ number) ∧
      next ≤ slot.number ∧ slot.number < next + template.groupCount := by
  induction template generalizing next around with
  | nil => cases member
  | literal text rest ih => exact ih member
  | placeholder name rest ih =>
    rw [numberFrom, List.mem_cons] at member
    rw [groupCount]
    rcases member with rfl | behind
    · exact ⟨fun _ inner => inner, fun _ inner => .inl inner, Nat.le_refl _, by simp⟩
    · obtain ⟨outer, inner, low, high⟩ := ih behind
      refine ⟨outer, fun number numbered => ?_, by omega, by omega⟩
      exact (inner number numbered).imp_right fun above => by omega
  | optional inside rest ihInside ihRest =>
    rw [numberFrom, List.cons_append, List.mem_cons, List.mem_append] at member
    rw [groupCount]
    rcases member with rfl | within | behind
    · exact ⟨fun _ inner => inner, fun _ inner => .inl inner, Nat.le_refl _, by simp⟩
    · obtain ⟨outer, inner, low, high⟩ := ihInside within
      refine ⟨fun number numbered => outer number (List.mem_cons_of_mem _ numbered),
        fun number numbered => ?_, by omega, by omega⟩
      rcases inner number numbered with old | above
      · rcases List.mem_cons.mp old with rfl | old
        · exact .inr (Nat.le_refl _)
        · exact .inl old
      · exact .inr (by omega)
    · obtain ⟨outer, inner, low, high⟩ := ihRest behind
      refine ⟨outer, fun number numbered => ?_, by omega, by omega⟩
      exact (inner number numbered).imp_right fun above => by omega

/-- Of the spans numbered before a template, those around a slot are around the whole. -/
theorem notMem_around {template : Template} {next number : Nat} {around : List Nat}
    {slot : NumberedSlot} (member : slot ∈ template.numberFrom next around)
    (outside : number ∉ around) (before : number < next) : number ∉ slot.around := by
  intro inner
  rcases (around_of_mem_numberFrom member).2.1 number inner with old | above
  · exact outside old
  · omega

theorem pairwise_spansFit (template : Template) (offset next : Nat) (around : List Nat)
    (older : ∀ number ∈ around, number < next) :
    ((template.numberFrom next around).zip (template.entriesFrom offset)).Pairwise SpansFit := by
  induction template generalizing offset next around with
  | nil => exact .nil
  | literal text rest ih => exact ih _ next around older
  | placeholder name rest ih =>
    rw [numberFrom, entriesFrom, List.zip_cons_cons, List.pairwise_cons]
    refine ⟨?_, ih _ _ around fun number old => (older number old).trans (Nat.lt_succ_self next)⟩
    intro second _ start stop start' stop' impossible
    cases impossible
  | optional inside rest ihInside ihRest =>
    have lengths : (inside.numberFrom (next + 1) (next :: around)).length =
        (inside.entriesFrom (offset + 1)).length := by
      rw [length_numberFrom, length_entriesFrom]
    have olderInside : ∀ number ∈ next :: around, number < next + 1 :=
      List.forall_mem_cons.mpr
        ⟨Nat.lt_succ_self next, fun number old => (older number old).trans (Nat.lt_succ_self next)⟩
    have olderRest : ∀ number ∈ around, number < next + 1 + inside.groupCount :=
      fun number old => (older number old).trans_le (by omega)
    rw [numberFrom, entriesFrom, List.cons_append, List.cons_append, List.zip_cons_cons,
      List.zip_append lengths, List.pairwise_cons, List.pairwise_append]
    refine ⟨?_, ihInside _ _ _ olderInside, ihRest _ _ _ olderRest, ?_⟩
    · rintro ⟨slot, entry⟩ member start stop start' stop' own found
      cases own
      cases found
      rcases List.mem_append.mp member with within | behind
      · obtain ⟨numbered, logged⟩ := List.of_mem_zip within
        have bounds := bounds_of_mem_entriesFrom logged
        rw [if_pos ((around_of_mem_numberFrom numbered).1 next List.mem_cons_self)]
        omega
      · obtain ⟨numbered, logged⟩ := List.of_mem_zip behind
        have bounds := bounds_of_mem_entriesFrom logged
        have outside : next ∉ around := fun old => Nat.lt_irrefl next (older next old)
        rw [if_neg (notMem_around numbered outside (by omega))]
        omega
    · rintro ⟨slot, entry⟩ within ⟨slot', entry'⟩ behind start stop start' stop' found found'
      cases found
      cases found'
      obtain ⟨numbered, logged⟩ := List.of_mem_zip within
      obtain ⟨numbered', logged'⟩ := List.of_mem_zip behind
      have bounds := bounds_of_mem_entriesFrom logged
      have bounds' := bounds_of_mem_entriesFrom logged'
      obtain ⟨_, _, low, high⟩ := around_of_mem_numberFrom numbered
      have outside : slot.number ∉ around := by
        intro old
        have := older slot.number old
        omega
      rw [if_neg (notMem_around numbered' outside high)]
      omega

/-! ## Whole texts -/

/-- Reading logs one entry for each slot, in slot order: the name of a placeholder, and for a span
the bytes of its brackets. The stretches of two spans lie as the spans do, one within the other or
one behind the other. -/
theorem log_of_read (dictionary : Dictionary) (pattern : String) (template : Template)
    (found : (read dictionary pattern).outcome = .ok template) :
    ∃ entries, (read dictionary pattern).log = .scanning pattern :: entries ∧
      entries.length = template.groupCount ∧
      List.Forall₂ (Reports pattern) entries template.slots ∧
      (template.numbered.zip entries).Pairwise SpansFit := by
  have printed := (canonical_of_read found).1
  rw [outcome_read] at found
  refine ⟨template.entriesFrom 0, ?_, template.length_entriesFrom 0, ?_, ?_⟩
  · rw [read, Logged.emit_bind, log_readWindow found]
  · apply @reports_entriesFrom template pattern [] []
    simp [← printed, source]
  · exact template.pairwise_spansFit 0 1 [] (List.forall_mem_nil _)

/-- The literal between two placeholders logs nothing, and the brackets of the outer span stand
around those of the inner one, behind a character of two bytes. -/
theorem log_of_nested_spans :
    let dictionary : Dictionary := { fragment := fun _ => some "(x)" }
    let template := literal "é" (optional (placeholder "a" (literal "\x7d-" (optional
      (placeholder "a" nil) nil))) (placeholder "b" nil))
    (read dictionary "é<{a}\x7d-<{a}>>{b}").outcome = .ok template ∧
      ∃ entries, (read dictionary "é<{a}\x7d-<{a}>>{b}").log =
          .scanning "é<{a}\x7d-<{a}>>{b}" :: entries ∧
        entries = [.foundOptional 2 13, .acceptedPlaceholder "a", .foundOptional 8 12,
          .acceptedPlaceholder "a", .acceptedPlaceholder "b"] ∧
        List.Forall₂ (Reports "é<{a}\x7d-<{a}>>{b}") entries template.slots ∧
        (template.numbered.zip entries).Pairwise SpansFit := by
  intro dictionary template
  have found : (read dictionary "é<{a}\x7d-<{a}>>{b}").outcome = .ok template := by cbv
  obtain ⟨entries, logged, _, reports, fits⟩ := log_of_read dictionary _ template found
  refine ⟨found, entries, logged, ?_, reports, fits⟩
  have log : (read dictionary "é<{a}\x7d-<{a}>>{b}").log =
      [.scanning "é<{a}\x7d-<{a}>>{b}", .foundOptional 2 13, .acceptedPlaceholder "a",
        .foundOptional 8 12, .acceptedPlaceholder "a", .acceptedPlaceholder "b"] := by cbv
  exact (List.cons.inj (logged.symm.trans log)).2

end Template

end Stencil
