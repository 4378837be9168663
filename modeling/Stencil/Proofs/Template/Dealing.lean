import Stencil.Template.Fields
/-!
# Captures dealt out

Every slot of a template takes one capture, whether its span took part or not. So the
readings follow from the captures of the slots alone, and the fields from the readings.
-/
namespace Stencil

namespace Template

/-- The readings of a template whose slots have these captures, in slot order. -/
def readings (present : Bool) : Template → List (Option String) → List Reading
  | nil, _ => []
  | literal _ rest, captures => rest.readings present captures
  | placeholder name rest, captures =>
    ⟨name, if present then captures.headD none else none⟩ :: rest.readings present captures.tail
  | optional inside rest, captures =>
    inside.readings (present && (captures.headD none).isSome)
        (captures.tail.take inside.groupCount) ++
      rest.readings present (captures.tail.drop inside.groupCount)

theorem names_readings (template : Template) (present : Bool) (captures : List (Option String)) :
    (template.readings present captures).map Reading.name = template.fieldNames := by
  induction template generalizing present captures with
  | nil => rfl
  | literal text rest ih => exact ih present captures
  | placeholder name rest ih => rw [readings, List.map_cons, ih, fieldNames]
  | optional inside rest ihInside ihRest =>
    rw [readings, List.map_append, ihInside, ihRest, fieldNames]

/-- Nothing is read within a span that took no part. -/
theorem readings_false (template : Template) (captures : List (Option String)) :
    template.readings false captures = template.fieldNames.map fun name => ⟨name, none⟩ := by
  induction template generalizing captures with
  | nil => rfl
  | literal text rest ih => exact ih captures
  | placeholder name rest ih =>
    rw [readings, ih]
    rfl
  | optional inside rest ihInside ihRest =>
    rw [readings, Bool.false_and, ihInside, ihRest, fieldNames, List.map_append]

/-- A span takes a capture of its own and leaves the others to what is inside and behind it. -/
theorem outcome_deal_optional (inside rest : Template) (expected : Nat) (present : Bool)
    (drawn : Nat) (capture : Option String) (left : List (Option String)) :
    ((optional inside rest).deal expected present ⟨drawn, capture :: left⟩).outcome =
      (inside.deal expected (present && capture.isSome) ⟨drawn + 1, left⟩ >>= fun first =>
        rest.deal expected present first.2 >>= fun second =>
          pure (first.1 ++ second.1, second.2)).outcome := by
  cases present <;> cases capture <;> rfl

/-- As many captures are drawn as there are slots. -/
theorem outcome_deal (template : Template) (expected : Nat) (present : Bool) (drawn : Nat)
    {own : List (Option String)} (count : own.length = template.groupCount)
    (left : List (Option String)) :
    (template.deal expected present ⟨drawn, own ++ left⟩).outcome =
      .ok (template.readings present own, ⟨drawn + own.length, left⟩) := by
  induction template generalizing present drawn own left with
  | nil =>
    obtain rfl := List.length_eq_zero_iff.mp count
    rfl
  | literal text rest ih => exact ih present drawn count left
  | placeholder name rest ih =>
    cases own with
    | nil =>
      rw [groupCount, List.length_nil] at count
      omega
    | cons capture own =>
      have rest' : own.length = rest.groupCount := by
        rw [groupCount, List.length_cons] at count
        omega
      have further := ih present (drawn + 1) rest' left
      rw [deal, Logged.outcome_bind_eq_ok]
      refine ⟨(capture, ⟨drawn + 1, own ++ left⟩), rfl, ?_⟩
      rw [Logged.outcome_bind_eq_ok]
      refine ⟨_, further, ?_⟩
      rw [List.length_cons, Nat.add_right_comm, Nat.add_assoc]
      rfl
  | optional inside rest ihInside ihRest =>
    cases own with
    | nil =>
      rw [groupCount, List.length_nil] at count
      omega
    | cons capture own =>
      rw [groupCount, List.length_cons] at count
      have within : (own.take inside.groupCount).length = inside.groupCount := by
        rw [List.length_take]
        omega
      have rest' : (own.drop inside.groupCount).length = rest.groupCount := by
        rw [List.length_drop]
        omega
      have first := ihInside (present && capture.isSome) (drawn + 1) within
        (own.drop inside.groupCount ++ left)
      have second := ihRest present (drawn + 1 + inside.groupCount) rest' left
      rw [← List.append_assoc, List.take_append_drop, within] at first
      rw [List.cons_append, outcome_deal_optional, Logged.outcome_bind_eq_ok]
      refine ⟨_, first, ?_⟩
      rw [Logged.outcome_bind_eq_ok]
      refine ⟨_, second, ?_⟩
      rw [rest', List.length_cons, show own.length = inside.groupCount + rest.groupCount by omega]
      change Except.ok _ = Except.ok _
      rw [show drawn + 1 + inside.groupCount + rest.groupCount =
        drawn + (inside.groupCount + rest.groupCount + 1) by omega]
      rfl

end Template

/-! ## Fields -/

namespace Reading

/-- The values of one name, in slot order. -/
def valuesOf (name : String) (readings : List Reading) : List String :=
  readings.filterMap fun reading => if reading.name = name then reading.value else none

theorem valuesOf_cons_of_ne {name : String} {reading : Reading} (other : reading.name ≠ name)
    (readings : List Reading) : valuesOf name (reading :: readings) = valuesOf name readings := by
  simp [valuesOf, other]

theorem valuesOf_cons_of_eq (name : String) (value : Option String) (readings : List Reading) :
    valuesOf name (⟨name, value⟩ :: readings) = value.toList ++ valuesOf name readings := by
  cases value <;> simp [valuesOf]

theorem valuesOf_of_not_mem {name : String} {readings : List Reading}
    (missing : name ∉ readings.map Reading.name) : valuesOf name readings = [] := by
  rw [valuesOf, List.filterMap_eq_nil_iff]
  intro reading member
  refine if_neg fun equal => missing ?_
  exact List.mem_map.mpr ⟨reading, member, equal⟩

end Reading

namespace Fields

open Reading

private theorem compare_eq {first second : String} :
    compare first second = .eq ↔ first = second :=
  Std.LawfulEqOrd.compare_eq_iff_eq

private theorem getElem?_putValue (fields : Fields String) (reading : Reading) (name : String) :
    (fields.putValue reading)[name]? = (valuesOf name [reading]).getLast?.or fields[name]? := by
  obtain ⟨other, value⟩ := reading
  by_cases same : other = name
  · subst same
    rw [valuesOf_cons_of_eq]
    cases value <;> simp [putValue, valuesOf]
  · rw [valuesOf_cons_of_ne same]
    cases value with
    | none => rfl
    | some found =>
      rw [putValue, Std.TreeMap.getElem?_insert, if_neg fun equal => same (compare_eq.mp equal)]
      rfl

/-- Of several values the last counts. -/
theorem getElem?_ofReadings (readings : List Reading) (name : String) :
    (ofReadings readings)[name]? = (valuesOf name readings).getLast? := by
  have further (fields : Fields String) : (readings.foldl putValue fields)[name]? =
      (valuesOf name readings).getLast?.or fields[name]? := by
    induction readings generalizing fields with
    | nil => rfl
    | cons reading readings ih =>
      have split : valuesOf name (reading :: readings) =
          valuesOf name [reading] ++ valuesOf name readings := by
        rw [valuesOf, valuesOf, valuesOf, ← List.filterMap_append]
        rfl
      rw [List.foldl_cons, ih, getElem?_putValue, split, List.getLast?_append, Option.or_assoc]
  rw [ofReadings, further, Std.TreeMap.getElem?_emptyc, Option.or_none]

/-- If no name comes twice, the fields are the readings with a value. -/
theorem getElem?_ofReadings_of_nodup {readings : List Reading}
    (distinct : (readings.map Reading.name).Nodup) {name value : String} :
    (ofReadings readings)[name]? = some value ↔ ⟨name, some value⟩ ∈ readings := by
  rw [getElem?_ofReadings]
  induction readings with
  | nil => simp [valuesOf]
  | cons reading readings ih =>
    obtain ⟨other, found⟩ := reading
    obtain ⟨new, distinct⟩ := List.nodup_cons.mp distinct
    by_cases same : other = name
    · subst same
      have none : valuesOf other readings = [] := valuesOf_of_not_mem new
      have missing : ⟨other, some value⟩ ∉ readings := fun member =>
        new (List.mem_map.mpr ⟨_, member, rfl⟩)
      rw [valuesOf_cons_of_eq, none, List.append_nil, List.mem_cons]
      cases found with
      | none => simp [missing]
      | some found => simp [missing, eq_comm]
    · rw [valuesOf_cons_of_ne same, ih distinct, List.mem_cons]
      simp [Ne.symm same]

private theorem getElem?_putField (fields : Fields (Option String)) (reading : Reading)
    (name : String) : (fields.putField reading)[name]? =
      if reading.name = name then some (fields[name]?.join.or reading.value)
      else fields[name]? := by
  obtain ⟨other, value⟩ := reading
  by_cases same : other = name
  · subst same
    rw [if_pos rfl, putField]
    dsimp only
    split
    · rename_i found there
      rw [there]
      rfl
    · rename_i missing
      rw [Std.TreeMap.getElem?_insert_self]
      cases there : fields[other]? with
      | none => rfl
      | some found =>
        cases found with
        | none => rfl
        | some found => exact absurd there (missing found)
  · rw [if_neg same, putField]
    split
    · rfl
    · rw [Std.TreeMap.getElem?_insert, if_neg fun equal => same (compare_eq.mp equal)]

/-- Every name has a field. Of several values the first counts. -/
theorem getElem?_allOfReadings (readings : List Reading) (name : String) :
    (allOfReadings readings)[name]? =
      if name ∈ readings.map Reading.name then some (valuesOf name readings).head? else none := by
  have further (fields : Fields (Option String)) : (readings.foldl putField fields)[name]? =
      if name ∈ readings.map Reading.name then
        some (fields[name]?.join.or (valuesOf name readings).head?)
      else fields[name]? := by
    induction readings generalizing fields with
    | nil => rfl
    | cons reading readings ih =>
      obtain ⟨other, value⟩ := reading
      rw [List.foldl_cons, ih, getElem?_putField]
      by_cases same : other = name
      · subst same
        rw [if_pos rfl, List.map_cons, if_pos List.mem_cons_self, valuesOf_cons_of_eq]
        split
        · cases value <;> simp
        · rename_i missing
          have none : valuesOf other readings = [] := valuesOf_of_not_mem missing
          cases value <;> simp [none]
      · rw [if_neg same, valuesOf_cons_of_ne same]
        simp only [List.map_cons, List.mem_cons, Ne.symm same, false_or]
  rw [allOfReadings, further, Std.TreeMap.getElem?_emptyc]
  rfl

theorem getElem?_allOfReadings_of_nodup {readings : List Reading}
    (distinct : (readings.map Reading.name).Nodup) {name : String} {value : Option String} :
    (allOfReadings readings)[name]? = some value ↔ ⟨name, value⟩ ∈ readings := by
  rw [getElem?_allOfReadings]
  induction readings with
  | nil => simp
  | cons reading readings ih =>
    obtain ⟨other, found⟩ := reading
    obtain ⟨new, distinct⟩ := List.nodup_cons.mp distinct
    by_cases same : other = name
    · subst same
      have missing : ⟨other, value⟩ ∉ readings := fun member =>
        new (List.mem_map.mpr ⟨_, member, rfl⟩)
      have own : other ∈ ((⟨other, found⟩ : Reading) :: readings).map Reading.name :=
        List.mem_cons_self
      rw [if_pos own, valuesOf_cons_of_eq, valuesOf_of_not_mem new, List.append_nil,
        List.mem_cons]
      cases found <;> simp [missing, eq_comm]
    · rw [valuesOf_cons_of_ne same, List.mem_cons, ← ih distinct]
      simp [Ne.symm same]

end Fields

namespace Template

theorem outcome_readCaptures {template : Template} {captures : List (Option String)}
    (count : captures.length = template.groupCount) :
    (template.readCaptures captures).outcome =
      .ok (template.readings true captures, ⟨captures.length, []⟩) := by
  have dealt := template.outcome_deal template.groupCount true 0 count []
  rwa [List.append_nil, Nat.zero_add] at dealt

theorem outcome_extract {template : Template} {captures : List (Option String)}
    (count : captures.length = template.groupCount) :
    (template.extract captures).outcome =
      .ok (Fields.ofReadings (template.readings true captures)) :=
  Logged.outcome_bind_eq_ok.mpr ⟨_, outcome_readCaptures count, rfl⟩

theorem outcome_extractAll {template : Template} {captures : List (Option String)}
    (count : captures.length = template.groupCount) :
    (template.extractAll captures).outcome =
      .ok (Fields.allOfReadings (template.readings true captures)) :=
  Logged.outcome_bind_eq_ok.mpr ⟨_, outcome_readCaptures count, rfl⟩

end Template

end Stencil
