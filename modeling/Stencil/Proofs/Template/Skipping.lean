import Stencil.Proofs.Template.ScanLog
/-!
# Skipped spans

A span is skipped if it or a span around it has no capture. Dealing out captures logs the skipped
spans in slot order, as far as the captures reach. The outermost of them take the captures of all
the slots within, and every slot that is left lies only in spans that took part.
-/
namespace Stencil

namespace Slot

def isSpan : Slot → Bool
  | placeholder _ => false
  | optional _ => true

/-- The slot as a template of its own. -/
def segment : Slot → Template
  | placeholder name => .placeholder name .nil
  | optional inside => .optional inside .nil

end Slot

namespace NumberedSlot

/-- The numbers of the spans that a slot lies in, its own among them if it is a span itself. -/
def spans (slot : NumberedSlot) : List Nat :=
  if slot.slot.isSpan then slot.number :: slot.around else slot.around

/-- Every span that the slot lies in took part. -/
def Kept (captures : List (Option String)) (slot : NumberedSlot) : Prop :=
  AllPresent captures slot.spans

instance (captures : List (Option String)) (slot : NumberedSlot) :
    Decidable (slot.Kept captures) :=
  inferInstanceAs (Decidable (AllPresent _ _))

/-- A span is skipped if it has no capture or lies in one that has none. -/
def Skipped (captures : List (Option String)) (slot : NumberedSlot) : Prop :=
  slot.slot.isSpan = true ∧ ¬ slot.Kept captures

instance (captures : List (Option String)) (slot : NumberedSlot) :
    Decidable (slot.Skipped captures) :=
  inferInstanceAs (Decidable (_ ∧ _))

def groups (slot : NumberedSlot) : Nat :=
  slot.slot.segment.groupCount

/-- What is logged of a skipped span. -/
def skipEntry (slot : NumberedSlot) : Entry :=
  .skippedOptional slot.groups

theorem mem_spans_of_isSpan {slot : NumberedSlot} (span : slot.slot.isSpan = true) :
    slot.number ∈ slot.spans := by
  rw [spans, if_pos span]
  exact List.mem_cons_self

theorem around_subset_spans (slot : NumberedSlot) : slot.around ⊆ slot.spans := by
  rw [spans]
  split
  · exact List.subset_cons_self _ _
  · exact List.Subset.refl _

end NumberedSlot

theorem AllPresent.mono {captures : List (Option String)} {spans others : List Nat}
    (h : AllPresent captures others) (within : spans ⊆ others) : AllPresent captures spans :=
  fun span member => h span (within member)

namespace Template

/-- The skipped spans, in slot order. -/
def skipped (template : Template) (captures : List (Option String)) : List NumberedSlot :=
  template.numbered.filter fun slot => slot.Skipped captures

/-- The skipped spans that lie in no other skipped span. -/
def outermostSkipped (template : Template) (captures : List (Option String)) :
    List NumberedSlot :=
  (template.skipped captures).filter fun span =>
    ∀ outer ∈ template.skipped captures, outer.number ∉ span.around

/-- The slots that lie in a skipped span, the skipped spans themselves among them. -/
def discarded (template : Template) (captures : List (Option String)) : List NumberedSlot :=
  template.numbered.filter fun slot =>
    ∃ span ∈ template.skipped captures, span.number ∈ slot.spans

/-! ## What is logged -/

/-- A span that takes part logs nothing itself. -/
theorem log_deal_optional (inside rest : Template) (expected : Nat) (present : Bool)
    (drawn : Nat) (capture : Option String) (left : List (Option String)) :
    ((optional inside rest).deal expected present ⟨drawn, capture :: left⟩).log =
      (if present && capture.isSome then [] else [.skippedOptional (1 + inside.groupCount)]) ++
        (inside.deal expected (present && capture.isSome) ⟨drawn + 1, left⟩ >>= fun first =>
          rest.deal expected present first.2 >>= fun second =>
            pure (first.1 ++ second.1, second.2)).log := by
  cases present <;> cases capture <;> rfl

/-- Slots behind the captures are not logged. -/
private theorem filter_beyond (template : Template) (captures : List (Option String))
    {next bound : Nat} (around : List Nat) (beyond : bound ≤ next) :
    (template.numberFrom next around).filter
      (fun slot => slot.Skipped captures ∧ slot.number < bound) = [] := by
  apply List.filter_eq_nil_iff.mpr
  intro slot member
  have low := (around_of_mem_numberFrom member).2.2.1
  simp only [decide_eq_true_eq, not_and]
  omega

theorem numberFrom_optional (inside rest : Template) (next : Nat) (around : List Nat) :
    (optional inside rest).numberFrom next around =
      [⟨next, .optional inside, around⟩] ++ (inside.numberFrom (next + 1) (next :: around) ++
        rest.numberFrom (next + 1 + inside.groupCount) around) := rfl

/-- A span that is reached is logged unless it takes part. -/
private theorem log_of_span (inside : Template) {captures : List (Option String)}
    {next bound : Nat} (around : List Nat) {present : Bool}
    (outer : present = true ↔ AllPresent captures (next :: around)) (reached : next < bound) :
    (if present then [] else [Entry.skippedOptional (1 + inside.groupCount)]) =
      ([⟨next, .optional inside, around⟩].filter fun slot : NumberedSlot =>
        slot.Skipped captures ∧ slot.number < bound).map NumberedSlot.skipEntry := by
  have skipped : NumberedSlot.Skipped captures ⟨next, .optional inside, around⟩ ↔
      ¬ present = true := by
    rw [outer]
    exact ⟨And.right, fun absent => ⟨rfl, absent⟩⟩
  cases present with
  | false => simp [skipped, reached, NumberedSlot.skipEntry, NumberedSlot.groups, Slot.segment,
      groupCount]
  | true => simp [skipped]

private theorem log_deal_nil (template : Template) (expected : Nat) (present : Bool)
    (drawn next : Nat) (around : List Nat) (captures : List (Option String)) :
    (template.deal expected present ⟨drawn, []⟩).log =
      ((template.numberFrom next around).filter
        fun slot => slot.Skipped captures ∧ slot.number < next).map NumberedSlot.skipEntry := by
  rw [filter_beyond template captures around (Nat.le_refl next)]
  induction template with
  | nil => rfl
  | literal text rest ih => exact ih
  | placeholder name rest ih => rfl
  | optional inside rest ihInside ihRest => rfl

/-- Captures that stand in a list of captures from a number on. -/
def StandFrom (captures : List (Option String)) (next : Nat) (own : List (Option String)) : Prop :=
  ∀ i < own.length, own[i]?.join = captureOf captures (next + i)

theorem StandFrom.drop {captures own : List (Option String)} {next : Nat}
    (h : StandFrom captures next own) (count : Nat) :
    StandFrom captures (next + count) (own.drop count) := by
  intro i below
  rw [List.length_drop] at below
  rw [List.getElem?_drop, Nat.add_assoc]
  exact h (count + i) (by omega)

/-- The log holds the skipped spans that the captures reach. Whether such a span is skipped does
not depend on the captures behind these, so they may be those of a longer list. -/
theorem log_deal (template : Template) (expected : Nat) (present : Bool) (drawn next : Nat)
    (around : List Nat) (own captures : List (Option String))
    (outer : present = true ↔ AllPresent captures around) (stand : StandFrom captures next own) :
    (template.deal expected present ⟨drawn, own⟩).log =
      ((template.numberFrom next around).filter
        fun slot => slot.Skipped captures ∧ slot.number < next + own.length).map
          NumberedSlot.skipEntry := by
  induction template generalizing present drawn next around own with
  | nil => rfl
  | literal text rest ih => exact ih present drawn next around own outer stand
  | placeholder name rest ih =>
    cases own with
    | nil => exact log_deal_nil _ expected present drawn next around captures
    | cons capture left =>
      have reach : next + (capture :: left).length = next + 1 + left.length := by
        rw [List.length_cons, Nat.add_comm left.length, Nat.add_assoc]
      have further := ih present (drawn + 1) (next + 1) around left outer (stand.drop 1)
      have dealt : ((placeholder name rest).deal expected present ⟨drawn, capture :: left⟩).log =
          (rest.deal expected present ⟨drawn + 1, left⟩).log :=
        Logged.log_map (rest.deal expected present ⟨drawn + 1, left⟩) _
      rw [dealt, further, reach, numberFrom, List.filter_cons_of_neg]
      simp [NumberedSlot.Skipped, Slot.isSpan]
  | optional inside rest ihInside ihRest =>
    cases own with
    | nil => exact log_deal_nil _ expected present drawn next around captures
    | cons capture left =>
      have reach : next + (capture :: left).length = next + 1 + left.length := by
        rw [List.length_cons, Nat.add_comm left.length, Nat.add_assoc]
      have inner : (present && capture.isSome) = true ↔ AllPresent captures (next :: around) := by
        have first : capture = captureOf captures next := stand 0 (Nat.succ_pos _)
        rw [Bool.and_eq_true, outer, first, AllPresent, AllPresent, List.forall_mem_cons, and_comm]
      have logged := log_of_span inside around inner
        (Nat.lt_add_right left.length (Nat.lt_succ_self next))
      have within := ihInside _ (drawn + 1) (next + 1) (next :: around) left inner (stand.drop 1)
      rw [log_deal_optional, reach, numberFrom_optional, List.filter_append, List.filter_append,
        List.map_append, List.map_append, logged, ← within]
      congr 1
      by_cases short : left.length < inside.groupCount
      · -- the captures run out within the span
        have failed := inside.outcome_deal_of_short expected (present && capture.isSome)
          (drawn + 1) short
        have none := filter_beyond rest captures around
          (by omega : next + 1 + left.length ≤ next + 1 + inside.groupCount)
        rw [Logged.bind_of_error _ failed, none, List.map_nil, List.append_nil]
      · have count : (left.take inside.groupCount).length = inside.groupCount := by
          rw [List.length_take]
          omega
        have dealt := inside.outcome_deal expected (present && capture.isSome) (drawn + 1) count
          (left.drop inside.groupCount)
        rw [List.take_append_drop, count] at dealt
        have behind := ihRest present (drawn + 1 + inside.groupCount)
          (next + 1 + inside.groupCount) around (left.drop inside.groupCount) outer
          ((stand.drop 1).drop inside.groupCount)
        have reach' : next + 1 + inside.groupCount + (left.drop inside.groupCount).length =
            next + 1 + left.length := by
          rw [List.length_drop]
          omega
        rw [reach'] at behind
        rw [Logged.bind_of_ok _ dealt, ← behind]
        exact congrArg _ (Logged.log_map _ _)

/-! ## Which slots are left -/

/-- The spans around a slot are numbered slots themselves, and so are those around these. -/
theorem span_of_mem_around {template : Template} {next number : Nat} {around : List Nat}
    {slot : NumberedSlot} (member : slot ∈ template.numberFrom next around)
    (holds : number ∈ slot.around) : number ∈ around ∨
      ∃ span ∈ template.numberFrom next around, span.number = number ∧
        span.slot.isSpan = true ∧ span.spans ⊆ slot.around := by
  induction template generalizing next around with
  | nil => cases member
  | literal text rest ih => exact ih member
  | placeholder name rest ih =>
    rw [numberFrom, List.mem_cons] at member
    rcases member with rfl | behind
    · exact .inl holds
    · refine (ih behind).imp_right ?_
      intro found
      obtain ⟨span, numbered, rest⟩ := found
      exact ⟨span, List.mem_cons_of_mem _ numbered, rest⟩
  | optional inside rest ihInside ihRest =>
    rw [numberFrom_optional, List.mem_append, List.mem_append, List.mem_singleton] at member
    simp only [numberFrom_optional, List.mem_append]
    rcases member with rfl | within | behind
    · exact .inl holds
    · rcases ihInside within with outer | ⟨span, numbered, rest⟩
      · rcases List.mem_cons.mp outer with rfl | outer
        · refine .inr ⟨_, .inl List.mem_cons_self, rfl, rfl, ?_⟩
          exact (around_of_mem_numberFrom within).1
        · exact .inl outer
      · exact .inr ⟨span, .inr (.inl numbered), rest⟩
    · refine (ihRest behind).imp_right ?_
      intro found
      obtain ⟨span, numbered, rest⟩ := found
      exact ⟨span, .inr (.inr numbered), rest⟩

variable {template : Template} {captures : List (Option String)} {slot : NumberedSlot}

theorem eq_of_number_eq {other : NumberedSlot} (member : slot ∈ template.numbered)
    (member' : other ∈ template.numbered) (same : slot.number = other.number) : slot = other := by
  have distinct : (template.numbered.map NumberedSlot.number).Nodup := by
    rw [numbered, numbers_numberFrom]
    exact List.nodup_range'
  exact List.inj_on_of_nodup_map distinct member member' same

/-- Every number among these is that of a span, and those of the spans around it are there too. -/
def NamesSpans (template : Template) (numbers : List Nat) : Prop :=
  ∀ number ∈ numbers, ∃ span ∈ template.numbered, span.number = number ∧
    span.slot.isSpan = true ∧ span.spans ⊆ numbers

theorem namesSpans_around (member : slot ∈ template.numbered) :
    template.NamesSpans slot.around := by
  intro number holds
  exact (span_of_mem_around member holds).resolve_left List.not_mem_nil

theorem namesSpans_spans (member : slot ∈ template.numbered) :
    template.NamesSpans slot.spans := by
  have outer := namesSpans_around member
  intro number holds
  by_cases span : slot.slot.isSpan = true
  · have own := holds
    rw [NumberedSlot.spans, if_pos span, List.mem_cons] at own
    rcases own with rfl | around
    · exact ⟨slot, member, rfl, span, List.Subset.refl _⟩
    · obtain ⟨found, numbered, same, isSpan, within⟩ := outer number around
      exact ⟨found, numbered, same, isSpan, List.Subset.trans within slot.around_subset_spans⟩
  · rw [NumberedSlot.spans, if_neg span] at holds ⊢
    exact outer number holds

theorem mem_skipped {span : NumberedSlot} : span ∈ template.skipped captures ↔
    span ∈ template.numbered ∧ span.Skipped captures := by
  simp [skipped]

/-- One of the spans around is skipped exactly if they have not all taken part. -/
theorem NamesSpans.exists_skipped_iff {numbers : List Nat} (h : template.NamesSpans numbers) :
    (∃ span ∈ template.skipped captures, span.number ∈ numbers) ↔
      ¬ AllPresent captures numbers := by
  constructor
  · intro found present
    obtain ⟨span, skipped, member⟩ := found
    obtain ⟨numbered, _, absent⟩ := mem_skipped.mp skipped
    obtain ⟨other, numbered', same, _, within⟩ := h span.number member
    obtain rfl := eq_of_number_eq numbered' numbered same
    exact absent (present.mono within)
  · intro absent
    simp only [AllPresent, not_forall] at absent
    obtain ⟨number, member, missing⟩ := absent
    obtain ⟨span, numbered, rfl, isSpan, _⟩ := h number member
    refine ⟨span, mem_skipped.mpr ⟨numbered, isSpan, ?_⟩, member⟩
    intro kept
    exact missing (kept _ (NumberedSlot.mem_spans_of_isSpan isSpan))

/-- What lies in no skipped span lies only in spans that took part. -/
theorem discarded_eq (template : Template) (captures : List (Option String)) :
    template.discarded captures = template.numbered.filter fun slot => ¬ slot.Kept captures := by
  apply List.filter_congr
  intro slot member
  exact decide_eq_decide.mpr (namesSpans_spans member).exists_skipped_iff

theorem outermostSkipped_eq (template : Template) (captures : List (Option String)) :
    template.outermostSkipped captures = template.numbered.filter fun slot =>
      slot.Skipped captures ∧ AllPresent captures slot.around := by
  change (template.numbered.filter fun slot => slot.Skipped captures).filter _ = _
  rw [List.filter_filter]
  apply List.filter_congr
  intro slot member
  have around : (∀ outer ∈ template.skipped captures, outer.number ∉ slot.around) ↔
      AllPresent captures slot.around := by
    rw [← not_iff_not, ← (namesSpans_around member).exists_skipped_iff]
    simp
  simp only [around, Bool.decide_and, Bool.and_comm]

/-- The slots that are not kept are those that the outermost skipped spans number, each from its
own number on. -/
theorem numbers_discarded (template : Template) (captures : List (Option String)) (next : Nat)
    {around : List Nat} (present : AllPresent captures around) :
    ((template.numberFrom next around).filter fun slot => ¬ slot.Kept captures).map
        NumberedSlot.number =
      ((template.numberFrom next around).filter fun slot =>
        slot.Skipped captures ∧ AllPresent captures slot.around).flatMap fun span =>
          List.range' span.number span.groups := by
  induction template generalizing next around with
  | nil => rfl
  | literal text rest ih => exact ih next present
  | placeholder name rest ih =>
    have further := ih (next + 1) present
    have kept : NumberedSlot.Kept captures ⟨next, .placeholder name, around⟩ := present
    rw [numberFrom, List.filter_cons_of_neg (by simpa using kept),
      List.filter_cons_of_neg (by simp [NumberedSlot.Skipped, kept]), further]
  | optional inside rest ihInside ihRest =>
    have behind := ihRest (next + 1 + inside.groupCount) present
    rw [numberFrom_optional, List.filter_append, List.filter_append, List.filter_append,
      List.filter_append, List.map_append, List.map_append, List.flatMap_append,
      List.flatMap_append, behind, ← List.append_assoc, ← List.append_assoc]
    congr 1
    by_cases captured : (captureOf captures next).isSome
    · have inner : AllPresent captures (next :: around) :=
        List.forall_mem_cons.mpr ⟨captured, present⟩
      have kept : NumberedSlot.Kept captures ⟨next, .optional inside, around⟩ := inner
      rw [ihInside (next + 1) inner]
      simp [NumberedSlot.Skipped, kept]
    · have absent : ∀ slot ∈ inside.numberFrom (next + 1) (next :: around),
          ¬ AllPresent captures slot.around := by
        intro slot member all
        exact captured (all next ((around_of_mem_numberFrom member).1 next List.mem_cons_self))
      have discarded : (inside.numberFrom (next + 1) (next :: around)).filter
          (fun slot => ¬ slot.Kept captures) = inside.numberFrom (next + 1) (next :: around) := by
        apply List.filter_eq_self.mpr
        intro slot member
        have dropped : ¬ slot.Kept captures :=
          fun kept => absent slot member (kept.mono slot.around_subset_spans)
        simpa using dropped
      have covered : (inside.numberFrom (next + 1) (next :: around)).filter
          (fun slot => slot.Skipped captures ∧ AllPresent captures slot.around) = [] := by
        apply List.filter_eq_nil_iff.mpr
        intro slot member
        simp [absent slot member]
      have own : ¬ NumberedSlot.Kept captures ⟨next, .optional inside, around⟩ :=
        fun kept => captured (kept next List.mem_cons_self)
      have skipped : NumberedSlot.Skipped captures ⟨next, .optional inside, around⟩ := ⟨rfl, own⟩
      rw [discarded, covered, numbers_numberFrom]
      simp [own, skipped, present, NumberedSlot.groups, Slot.segment, groupCount,
        Nat.add_comm 1, List.range'_succ]

/-- The outermost skipped spans have the groups of all that is discarded. -/
theorem sum_groups_outermostSkipped (template : Template) (captures : List (Option String)) :
    ((template.outermostSkipped captures).map NumberedSlot.groups).sum =
      (template.discarded captures).length := by
  have none : AllPresent captures [] := List.forall_mem_nil _
  have numbers := congrArg List.length (numbers_discarded template captures 1 none)
  rw [List.length_map, List.length_flatMap] at numbers
  rw [outermostSkipped_eq, discarded_eq, numbered, numbers]
  simp only [List.length_range']

/-- What is not discarded is kept, and there is one capture for each. -/
theorem length_discarded (template : Template) (captures : List (Option String)) :
    (template.discarded captures).length +
      (template.numbered.filter fun slot => slot.Kept captures).length = template.groupCount := by
  have parts := template.numbered.length_eq_length_filter_add fun slot => slot.Kept captures
  rw [numbered, length_numberFrom, Nat.add_comm] at parts
  rw [discarded_eq, numbered, parts]
  simp only [decide_not]

/-! ## Whole templates -/

theorem log_extract (template : Template) (captures : List (Option String)) :
    (template.extract captures).log = (template.readCaptures captures).log :=
  Logged.log_map _ _

theorem log_extractAll (template : Template) (captures : List (Option String)) :
    (template.extractAll captures).log = (template.readCaptures captures).log :=
  Logged.log_map _ _

theorem log_readCaptures (template : Template) (captures more : List (Option String)) :
    (template.readCaptures captures).log =
      ((template.skipped (captures ++ more)).filter fun span => span.number ≤ captures.length).map
        NumberedSlot.skipEntry := by
  have stand : StandFrom (captures ++ more) 1 captures := by
    intro i below
    rw [captureOf, Nat.add_sub_cancel_left, List.getElem?_append_left below]
  have logged := template.log_deal template.groupCount true 0 1 [] captures (captures ++ more)
    (by simp [AllPresent]) stand
  rw [readCaptures, Captures.ofList, logged, skipped, List.filter_filter, numbered]
  congr 2
  funext slot
  simp [Nat.add_comm 1, and_comm]

theorem skipped_reached {template : Template} {captures : List (Option String)}
    (enough : template.groupCount ≤ captures.length) :
    (template.skipped captures).filter (fun span => span.number ≤ captures.length) =
      template.skipped captures := by
  apply List.filter_eq_self.mpr
  intro span member
  have high := (around_of_mem_numberFrom (mem_skipped.mp member).1).2.2.2
  simp only [decide_eq_true_eq]
  omega

/-- With a capture for each slot, both views log the spans that have none or lie in a span that
has none, in slot order and each with its groups. The outermost of these account for the captures
that are given up: what is drawn are theirs and one for each slot that lies only in spans that took
part. Where captures run out, the same is logged up to the last slot that has one, whatever the
missing captures would have been. -/
theorem log_of_skipped_spans (template : Template) (captures : List (Option String)) :
    (template.numbered.map NumberedSlot.slot = template.slots ∧
      template.numbered.map NumberedSlot.number = List.range' 1 template.groupCount) ∧
    (template.groupCount ≤ captures.length →
      (template.extract captures).log =
        (template.skipped captures).map NumberedSlot.skipEntry ∧
      (template.extractAll captures).log =
        (template.skipped captures).map NumberedSlot.skipEntry ∧
      ((template.outermostSkipped captures).map NumberedSlot.groups).sum =
        (template.discarded captures).length ∧
      (template.discarded captures).map NumberedSlot.number =
        (template.outermostSkipped captures).flatMap
          (fun span => List.range' span.number span.groups) ∧
      (∀ slot ∈ template.numbered,
        slot ∉ template.discarded captures ↔ slot.Kept captures) ∧
      ∃ readings, (template.readCaptures captures).outcome = .ok (readings,
        ⟨((template.outermostSkipped captures).map NumberedSlot.groups).sum +
          (template.numbered.filter fun slot => slot.Kept captures).length,
        captures.drop template.groupCount⟩)) ∧
    (captures.length < template.groupCount → ∀ more : List (Option String),
      template.groupCount ≤ (captures ++ more).length →
      (template.extract captures).log =
        ((template.skipped (captures ++ more)).filter
          fun span => span.number ≤ captures.length).map NumberedSlot.skipEntry ∧
      (template.extractAll captures).log =
        ((template.skipped (captures ++ more)).filter
          fun span => span.number ≤ captures.length).map NumberedSlot.skipEntry) := by
  refine ⟨⟨slots_numberFrom template 1 [], numbers_numberFrom template 1 []⟩, ?_, ?_⟩
  · intro enough
    have logged := template.log_readCaptures captures []
    rw [List.append_nil, skipped_reached enough] at logged
    have total := template.length_discarded captures
    have sum := template.sum_groups_outermostSkipped captures
    refine ⟨(template.log_extract captures).trans logged,
      (template.log_extractAll captures).trans logged, sum, ?_, ?_, ?_⟩
    · rw [discarded_eq, outermostSkipped_eq]
      exact template.numbers_discarded captures 1 (List.forall_mem_nil _)
    · intro slot member
      rw [discarded_eq, List.mem_filter]
      simp [member]
    · rw [sum, total]
      exact ⟨_, outcome_readCaptures_of_enough enough⟩
  · intro _ more _
    have logged := template.log_readCaptures captures more
    exact ⟨(template.log_extract captures).trans logged,
      (template.log_extractAll captures).trans logged⟩

/-- The span within the one that took no part is logged although it has a capture. Where the
captures run out in between, only the outer one is. -/
theorem log_of_stale_span :
    let template := optional (placeholder "a" (optional (placeholder "b" nil) nil))
      (optional (placeholder "c" nil) (placeholder "d" nil))
    let captures := [none, some "w", some "x", some "y", some "<", some "z", none]
    (template.groupCount ≤ captures.length ∧
      (template.extract captures).log = [.skippedOptional 4, .skippedOptional 2] ∧
      (template.discarded captures).map NumberedSlot.number = [1, 2, 3, 4] ∧
      ((template.outermostSkipped captures).map NumberedSlot.groups).sum = 4) ∧
    ((captures.take 2).length < template.groupCount ∧
      template.groupCount ≤ (captures.take 2 ++ captures.drop 2).length ∧
      (template.extractAll (captures.take 2)).log = [.skippedOptional 4]) := by
  intro template captures
  have enough : template.groupCount ≤ captures.length := by decide
  have short : (captures.take 2).length < template.groupCount := by decide
  obtain ⟨logged, _, sum, numbers, _⟩ := (log_of_skipped_spans template captures).2.1 enough
  have cut := (log_of_skipped_spans template (captures.take 2)).2.2 short (captures.drop 2)
    (by decide)
  refine ⟨⟨enough, logged.trans (by decide), numbers.trans (by decide), ?_⟩,
    short, by decide, cut.2.trans (by decide)⟩
  exact sum.trans (by decide)

end Template

end Stencil
