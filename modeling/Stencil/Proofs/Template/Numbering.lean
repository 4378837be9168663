import Stencil.Proofs.Template.Shortage
/-!
# Numbered slots

The slots of a template are numbered in the order in which they take their captures. A slot has
taken part in a match if it has a capture and every span around it has one. The fields of a match
are the captures of the placeholders that have taken part, and nothing else is read.
-/
namespace Stencil

/-- A slot with its number and the numbers of the spans around it, the innermost first. -/
structure NumberedSlot where
  number : Nat
  slot : Slot
  around : List Nat
deriving DecidableEq

/-- The capture with a number, counted from one. -/
def captureOf (captures : List (Option String)) (number : Nat) : Option String :=
  captures[number - 1]?.join

/-- Every span of these took part. -/
def AllPresent (captures : List (Option String)) (spans : List Nat) : Prop :=
  ∀ span ∈ spans, (captureOf captures span).isSome

instance (captures : List (Option String)) (spans : List Nat) :
    Decidable (AllPresent captures spans) :=
  inferInstanceAs (Decidable (∀ span ∈ spans, (captureOf captures span).isSome))

namespace NumberedSlot

/-- A slot took part if it and every span around it has a capture. -/
def Matched (captures : List (Option String)) (slot : NumberedSlot) : Prop :=
  (captureOf captures slot.number).isSome ∧ AllPresent captures slot.around

instance (captures : List (Option String)) (slot : NumberedSlot) :
    Decidable (slot.Matched captures) :=
  inferInstanceAs (Decidable (_ ∧ _))

/-- What is read at a slot: a placeholder has a value if the spans around it took part. -/
def reading? (captures : List (Option String)) (slot : NumberedSlot) : Option Reading :=
  match slot.slot with
  | .placeholder name =>
    some ⟨name, if AllPresent captures slot.around then captureOf captures slot.number else none⟩
  | .optional _ => none

/-- Two lists of captures say the same to a slot. A span only asks whether it has a capture. -/
def SameCapture (captures other : List (Option String)) (slot : NumberedSlot) : Prop :=
  match slot.slot with
  | .placeholder _ => captureOf captures slot.number = captureOf other slot.number
  | .optional _ =>
    (captureOf captures slot.number).isSome = (captureOf other slot.number).isSome

instance (captures other : List (Option String)) :
    (slot : NumberedSlot) → Decidable (slot.SameCapture captures other)
  | ⟨number, .placeholder _, _⟩ =>
    inferInstanceAs (Decidable (captureOf captures number = captureOf other number))
  | ⟨number, .optional _, _⟩ =>
    inferInstanceAs
      (Decidable ((captureOf captures number).isSome = (captureOf other number).isSome))

end NumberedSlot

namespace Template

/-- The slots within some spans, numbered from `next` on: a span before the slots inside it. -/
def numberFrom (next : Nat) (around : List Nat) : Template → List NumberedSlot
  | nil => []
  | literal _ rest => rest.numberFrom next around
  | placeholder name rest => ⟨next, .placeholder name, around⟩ :: rest.numberFrom (next + 1) around
  | optional inside rest =>
    ⟨next, .optional inside, around⟩ :: inside.numberFrom (next + 1) (next :: around) ++
      rest.numberFrom (next + 1 + inside.groupCount) around

/-- The slots of a whole template, numbered from one on. -/
def numbered (template : Template) : List NumberedSlot :=
  template.numberFrom 1 []

/-- The placeholders of a name that took part, in slot order. -/
def matched (template : Template) (captures : List (Option String)) (name : String) :
    List NumberedSlot :=
  template.numbered.filter fun slot => slot.slot = .placeholder name ∧ slot.Matched captures

/-- The values of a name, in slot order. -/
def matchedValues (template : Template) (captures : List (Option String)) (name : String) :
    List String :=
  (template.matched captures name).filterMap fun slot => captureOf captures slot.number

theorem slots_numberFrom (template : Template) (next : Nat) (around : List Nat) :
    (template.numberFrom next around).map NumberedSlot.slot = template.slots := by
  induction template generalizing next around with
  | nil => rfl
  | literal text rest ih => exact ih next around
  | placeholder name rest ih => rw [numberFrom, List.map_cons, ih, slots]
  | optional inside rest ihInside ihRest =>
    rw [numberFrom, List.map_append, List.map_cons, ihInside, ihRest, slots]

theorem numbers_numberFrom (template : Template) (next : Nat) (around : List Nat) :
    (template.numberFrom next around).map NumberedSlot.number =
      List.range' next template.groupCount := by
  induction template generalizing next around with
  | nil => rfl
  | literal text rest ih => exact ih next around
  | placeholder name rest ih =>
    rw [numberFrom, List.map_cons, ih, groupCount, Nat.add_comm 1, List.range'_succ]
  | optional inside rest ihInside ihRest =>
    have parts := @List.range'_append_1 (next + 1) inside.groupCount rest.groupCount
    rw [numberFrom, List.map_append, List.map_cons, ihInside, ihRest, List.cons_append, parts,
      groupCount, Nat.add_assoc, Nat.add_comm 1, List.range'_succ]

private theorem headD_eq_join (captures : List (Option String)) :
    captures.headD none = captures[0]?.join := by
  cases captures <;> rfl

/-- The readings of a template are those of its placeholders, one by one. -/
theorem readings_eq_numbered (template : Template) (captures : List (Option String)) (next : Nat)
    (around : List Nat) (present : Bool) (own : List (Option String))
    (outer : present = true ↔ AllPresent captures around)
    (same : ∀ i < template.groupCount, own[i]?.join = captureOf captures (next + i)) :
    template.readings present own =
      (template.numberFrom next around).filterMap (NumberedSlot.reading? captures) := by
  induction template generalizing next around present own with
  | nil => rfl
  | literal text rest ih => exact ih next around present own outer same
  | placeholder name rest ih =>
    have first := (headD_eq_join own).trans (same 0 (by rw [groupCount]; omega))
    have following := ih (next + 1) around present own.tail outer fun i below => by
      have later := same (i + 1) (by rw [groupCount]; omega)
      rw [List.getElem?_tail, later, Nat.add_assoc, Nat.add_comm 1]
    rw [readings, numberFrom, List.filterMap_cons, following, first, Nat.add_zero]
    simp only [NumberedSlot.reading?, ← outer]
  | optional inside rest ihInside ihRest =>
    have first := (headD_eq_join own).trans (same 0 (by rw [groupCount]; omega))
    have within := ihInside (next + 1) (next :: around) (present && (own.headD none).isSome)
      (own.tail.take inside.groupCount)
      (by rw [first, Nat.add_zero, Bool.and_eq_true, outer, AllPresent, AllPresent,
        List.forall_mem_cons, and_comm])
      fun i below => by
        have later := same (i + 1) (by rw [groupCount]; omega)
        rw [List.getElem?_take_of_lt below, List.getElem?_tail, later, Nat.add_assoc,
          Nat.add_comm 1]
    have following := ihRest (next + 1 + inside.groupCount) around present
      (own.tail.drop inside.groupCount) outer fun i below => by
        have later := same (inside.groupCount + i + 1) (by rw [groupCount]; omega)
        rw [List.getElem?_drop, List.getElem?_tail, later]
        congr 1
        omega
    rw [readings, numberFrom, List.cons_append, List.filterMap_cons, List.filterMap_append,
      within, following]
    rfl

theorem readings_take (template : Template) (captures : List (Option String)) :
    template.readings true (captures.take template.groupCount) =
      template.numbered.filterMap (NumberedSlot.reading? captures) := by
  apply template.readings_eq_numbered captures 1 [] true
  · simp [AllPresent]
  · intro i below
    rw [List.getElem?_take_of_lt below, captureOf, Nat.add_sub_cancel_left]

theorem mem_matched {template : Template} {captures : List (Option String)} {name : String}
    {slot : NumberedSlot} : slot ∈ template.matched captures name ↔
      slot ∈ template.numbered ∧ slot.slot = .placeholder name ∧ slot.Matched captures := by
  simp [matched]

/-- The values among the readings are those of the placeholders that took part. -/
theorem valuesOf_readings (template : Template) (captures : List (Option String))
    (name : String) :
    Reading.valuesOf name (template.readings true (captures.take template.groupCount)) =
      template.matchedValues captures name := by
  rw [readings_take, Reading.valuesOf, matchedValues, matched, List.filterMap_filterMap,
    List.filterMap_filter]
  apply List.filterMap_congr
  intro slot _
  obtain ⟨number, kind, around⟩ := slot
  cases kind with
  | optional inside => simp [NumberedSlot.reading?]
  | placeholder other =>
    by_cases same : other = name
    · by_cases present : AllPresent captures around
      · cases captured : captureOf captures number <;>
          simp [NumberedSlot.reading?, NumberedSlot.Matched, same, present, captured]
      · simp [NumberedSlot.reading?, NumberedSlot.Matched, same, present]
    · simp [NumberedSlot.reading?, same]

/-- The last value is that of the last placeholder that took part. -/
theorem getLast?_matchedValues (template : Template) (captures : List (Option String))
    (name : String) :
    (template.matchedValues captures name).getLast? =
      (template.matched captures name).getLast?.bind fun slot =>
        captureOf captures slot.number := by
  have present (slot : NumberedSlot) (member : slot ∈ template.matched captures name) :
      (captureOf captures slot.number).isSome := (mem_matched.mp member).2.2.1
  rw [matchedValues]
  rcases List.eq_nil_or_concat (template.matched captures name) with none | ⟨others, last, split⟩
  · rw [none]
    rfl
  · rw [split] at present ⊢
    obtain ⟨value, captured⟩ := Option.isSome_iff_exists.mp (present last (by simp))
    simp [captured]

/-- Where two lists of captures say the same to the slots that are asked at all, the same spans
took part. -/
theorem allPresent_iff_of_same {captures other : List (Option String)} (template : Template)
    (next : Nat) (around : List Nat) (outer : AllPresent captures around ↔ AllPresent other around)
    (same : ∀ slot ∈ template.numberFrom next around,
      AllPresent captures slot.around → slot.SameCapture captures other) :
    ∀ slot ∈ template.numberFrom next around,
      AllPresent captures slot.around ↔ AllPresent other slot.around := by
  induction template generalizing next around with
  | nil => exact fun _ member => nomatch member
  | literal text rest ih => exact ih next around outer same
  | placeholder name rest ih =>
    obtain ⟨_, others⟩ := List.forall_mem_cons.mp same
    exact List.forall_mem_cons.mpr ⟨outer, ih (next + 1) around outer others⟩
  | optional inside rest ihInside ihRest =>
    rw [numberFrom, List.cons_append, List.forall_mem_cons, List.forall_mem_append] at same ⊢
    obtain ⟨own, within, behind⟩ := same
    have further : AllPresent captures (next :: around) ↔ AllPresent other (next :: around) := by
      rw [AllPresent, AllPresent, List.forall_mem_cons, List.forall_mem_cons]
      by_cases present : AllPresent captures around
      · have equal : (captureOf captures next).isSome = (captureOf other next).isSome :=
          own present
        rw [equal]
        exact and_congr_right fun _ => outer
      · exact ⟨fun both => absurd both.2 present, fun both => absurd (outer.mpr both.2) present⟩
    exact ⟨outer, ihInside (next + 1) (next :: around) further within,
      ihRest (next + 1 + inside.groupCount) around outer behind⟩

theorem readings_congr {template : Template} {captures other : List (Option String)}
    (same : ∀ slot ∈ template.numbered,
      AllPresent captures slot.around → slot.SameCapture captures other) :
    template.readings true (captures.take template.groupCount) =
      template.readings true (other.take template.groupCount) := by
  have spans := template.allPresent_iff_of_same 1 [] (by simp [AllPresent]) same
  rw [readings_take, readings_take]
  apply List.filterMap_congr
  intro slot member
  have around := spans slot member
  have own := same slot member
  obtain ⟨number, kind, outer⟩ := slot
  cases kind with
  | optional inside => rfl
  | placeholder name =>
    simp only [NumberedSlot.reading?, ← around]
    by_cases present : AllPresent captures outer
    · rw [if_pos present, if_pos present]
      have equal : captureOf captures number = captureOf other number := own present
      rw [equal]
    · rw [if_neg present, if_neg present]

/-- With enough captures, a field has the value of the last placeholder of its name that took
part. What counts are the captures of the placeholders, and of each span whether it has one, but
neither counts in a span that took no part. -/
theorem extract_pairs_slots (template : Template) (captures : List (Option String))
    (enough : template.groupCount ≤ captures.length) :
    (template.numbered.map NumberedSlot.slot = template.slots ∧
      template.numbered.map NumberedSlot.number = List.range' 1 template.groupCount) ∧
    (∃ fields, (template.extract captures).outcome = .ok fields ∧
      ∀ name value, fields[name]? = some value ↔
        ∃ slot, (template.matched captures name).getLast? = some slot ∧
          captureOf captures slot.number = some value) ∧
    ∀ other : List (Option String), template.groupCount ≤ other.length →
      (∀ slot ∈ template.numbered,
        AllPresent captures slot.around → slot.SameCapture captures other) →
      (template.extract other).outcome = (template.extract captures).outcome := by
  refine ⟨⟨slots_numberFrom template 1 [], numbers_numberFrom template 1 []⟩, ?_, ?_⟩
  · refine ⟨_, by rw [outcome_extract_eq_map, outcome_readCaptures_of_enough enough]; rfl, ?_⟩
    intro name value
    rw [Fields.getElem?_ofReadings, valuesOf_readings, getLast?_matchedValues,
      Option.bind_eq_some_iff]
  · intro other enough' same
    rw [outcome_extract_eq_map, outcome_extract_eq_map, outcome_readCaptures_of_enough enough,
      outcome_readCaptures_of_enough enough', readings_congr same]
    rfl

/-- Captures of slots in a span that took no part are passed over, in the span inside it too, and
those behind the last slot are left. -/
theorem extract_of_stale_captures :
    let template := optional (placeholder "a" (optional (placeholder "a" nil) nil))
      (placeholder "a" (placeholder "b" nil))
    let captures := [none, some "x", some "y", some "z", some "last", none, some "more"]
    template.groupCount ≤ captures.length ∧
      (∃ fields, (template.extract captures).outcome = .ok fields ∧
        fields["a"]? = some "last" ∧ fields["b"]? ≠ some "more") ∧
      (template.extract [none, none, none, none, some "last", none]).outcome =
        (template.extract captures).outcome := by
  intro template captures
  have enough : template.groupCount ≤ captures.length := by decide
  obtain ⟨_, ⟨fields, read, pairs⟩, same⟩ := extract_pairs_slots template captures enough
  refine ⟨enough, ⟨fields, read, ?_, ?_⟩, same _ (by decide) (by decide)⟩
  · exact (pairs "a" "last").mpr ⟨⟨5, .placeholder "a", []⟩, by decide, by decide⟩
  · intro found
    obtain ⟨slot, last, _⟩ := (pairs "b" "more").mp found
    have none : template.matched captures "b" = [] := by decide
    rw [none] at last
    cases last

end Template

end Stencil
