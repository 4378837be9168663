import Mathlib.Data.List.Infix
import Stencil.Template.Read
/-!
# Angle brackets

A span ends at the first bracket that closes more than was opened behind its own. Whether it ends,
and where, is told by the numbers of brackets in the fronts of the text, so nothing else about the
text is needed to move, cut or nest it.
-/
namespace Stencil.Template

theorem count_opening (text : List Char) :
    ('<' :: text).count '<' = text.count '<' + 1 ∧ ('<' :: text).count '>' = text.count '>' :=
  ⟨List.count_cons_self, List.count_cons_of_ne (by decide)⟩

theorem count_closing (text : List Char) :
    ('>' :: text).count '<' = text.count '<' ∧ ('>' :: text).count '>' = text.count '>' + 1 :=
  ⟨List.count_cons_of_ne (by decide), List.count_cons_self⟩

/-! ## Where a span ends -/

/-- Text that closes no more brackets than are open is left with the others open. -/
theorem splitAtClose_of_early {text : List Char} (depth : Nat)
    (early : ∀ front, front <+: text → front.count '>' ≤ front.count '<' + depth)
    (more : List Char) :
    splitAtClose depth (text ++ more) =
      (splitAtClose (text.count '<' + depth - text.count '>') more).map fun (inside, after) =>
        (text ++ inside, after) := by
  induction text generalizing depth with
  | nil => simp
  | cons c text ih =>
    have later (front : List Char) (within : front <+: text) :
        (c :: front).count '>' ≤ (c :: front).count '<' + depth :=
      early _ ((List.prefix_cons_inj c).mpr within)
    by_cases opens : c = '<'
    · subst opens
      have further := ih (depth + 1) fun front within => by
        have := later front within
        simp only [count_opening] at this
        omega
      have depths : ('<' :: text).count '<' + depth - ('<' :: text).count '>' =
          text.count '<' + (depth + 1) - text.count '>' := by
        simp only [count_opening]
        omega
      rw [depths, List.cons_append, splitAtClose, further]
      cases splitAtClose _ more <;> rfl
    · by_cases closes : c = '>'
      · subst closes
        obtain ⟨depth, rfl⟩ : ∃ less, depth = less + 1 := by
          have := later [] List.nil_prefix
          simp at this
          exact ⟨depth - 1, by omega⟩
        have further := ih depth fun front within => by
          have := later front within
          simp only [count_closing] at this
          omega
        have depths : ('>' :: text).count '<' + (depth + 1) - ('>' :: text).count '>' =
            text.count '<' + depth - text.count '>' := by
          simp only [count_closing]
          omega
        rw [depths, List.cons_append, splitAtClose, further]
        cases splitAtClose _ more <;> rfl
      · have further := ih depth fun front within => by
          have := later front within
          simpa [List.count_cons_of_ne opens, List.count_cons_of_ne closes] using this
        rw [List.cons_append, List.count_cons_of_ne opens, List.count_cons_of_ne closes,
          splitAtClose.eq_5 depth c _ opens (fun _ => closes) (fun _ _ => closes), further]
        cases splitAtClose _ more <;> rfl

/-- A text either closes no more brackets than are open, or it is cut at the first that it does. -/
private theorem early_or_exceeds (depth : Nat) (text : List Char) :
    (∀ front, front <+: text → front.count '>' ≤ front.count '<' + depth) ∨
      ∃ inside after, text = inside ++ '>' :: after ∧
        (∀ front, front <+: inside → front.count '>' ≤ front.count '<' + depth) ∧
        inside.count '>' = inside.count '<' + depth := by
  induction text using List.reverseRecOn with
  | nil =>
    left
    intro front within
    simp [List.prefix_nil.mp within]
  | append_singleton text c ih =>
    rcases ih with early | ⟨inside, after, rfl, early, total⟩
    · by_cases exceeds : c = '>' ∧ text.count '>' = text.count '<' + depth
      · exact .inr ⟨text, [], by rw [exceeds.1], early, exceeds.2⟩
      · left
        intro front within
        rcases List.prefix_concat_iff.mp within with rfl | before
        · have own := early text List.prefix_rfl
          by_cases closes : c = '>'
          · have apart : text.count '>' ≠ text.count '<' + depth := fun same =>
              exceeds ⟨closes, same⟩
            simp only [closes, List.count_append, count_closing, List.count_nil]
            omega
          · rw [List.count_append, List.count_append, List.count_cons_of_ne closes, List.count_nil]
            omega
        · exact early front before
    · exact .inr ⟨inside, after ++ [c], by simp, early, total⟩

/-- A span never ends if nowhere more brackets are closed than are open. -/
theorem splitAtClose_eq_none_iff (depth : Nat) (text : List Char) :
    splitAtClose depth text = none ↔
      ∀ front, front <+: text → front.count '>' ≤ front.count '<' + depth := by
  constructor
  · intro unclosed
    rcases early_or_exceeds depth text with early | ⟨inside, after, rfl, early, total⟩
    · exact early
    · rw [splitAtClose_of_early depth early, total, Nat.sub_self] at unclosed
      simp [splitAtClose] at unclosed
  · intro early
    have whole := splitAtClose_of_early depth early []
    rw [List.append_nil] at whole
    simp [whole, splitAtClose]

/-- A span ends at the first bracket that closes more than are open. -/
theorem splitAtClose_eq_some_iff {depth : Nat} {text inside after : List Char} :
    splitAtClose depth text = some (inside, after) ↔
      text = inside ++ '>' :: after ∧
        (∀ front, front <+: inside → front.count '>' ≤ front.count '<' + depth) ∧
        inside.count '>' = inside.count '<' + depth := by
  have ends {inside after : List Char}
      (early : ∀ front, front <+: inside → front.count '>' ≤ front.count '<' + depth)
      (total : inside.count '>' = inside.count '<' + depth) :
      splitAtClose depth (inside ++ '>' :: after) = some (inside, after) := by
    rw [splitAtClose_of_early depth early, total, Nat.sub_self]
    simp [splitAtClose]
  constructor
  · intro found
    rcases early_or_exceeds depth text with early | ⟨inside', after', rfl, early, total⟩
    · rw [(splitAtClose_eq_none_iff depth text).mpr early] at found
      cases found
    · rw [ends early total] at found
      cases found
      exact ⟨rfl, early, total⟩
  · rintro ⟨rfl, early, total⟩
    exact ends early total

theorem splitAtClose_append {depth : Nat} {text inside after : List Char}
    (found : splitAtClose depth text = some (inside, after)) (more : List Char) :
    splitAtClose depth (text ++ more) = some (inside, after ++ more) := by
  rw [splitAtClose_eq_some_iff] at found ⊢
  obtain ⟨rfl, counts⟩ := found
  exact ⟨by simp, counts⟩

theorem splitAtClose_append_ne_none {depth : Nat} {text : List Char}
    (closed : splitAtClose depth text ≠ none) (more : List Char) :
    splitAtClose depth (text ++ more) ≠ none := by
  obtain ⟨⟨inside, after⟩, found⟩ := Option.ne_none_iff_exists'.mp closed
  rw [splitAtClose_append found]
  exact Option.some_ne_none _

/-- What is behind the end of a span closes the spans further out. -/
theorem splitAtClose_found {depth : Nat} {text within after : List Char}
    (h : splitAtClose depth text = some (within, after)) :
    splitAtClose depth within = none ∧
      (splitAtClose (depth + 1) text = none → splitAtClose 0 after = none) := by
  obtain ⟨rfl, early, total⟩ := splitAtClose_eq_some_iff.mp h
  simp only [splitAtClose_eq_none_iff]
  refine ⟨early, ?_⟩
  intro outside front before
  have bound := outside (within ++ '>' :: front)
    ((List.prefix_append_right_inj within).mpr ((List.prefix_cons_inj '>').mpr before))
  simp only [List.count_append, count_closing] at bound
  omega

/-- Text that closes no span around it and opens none holds no angle bracket. -/
theorem closesNothing_of_splitAtClose {text after : List Char} (opens : '<' ∉ text)
    (h : splitAtClose 0 (text ++ after) = none) : '>' ∉ text ∧ splitAtClose 0 after = none := by
  have none : text.count '<' = 0 := List.count_eq_zero.mpr opens
  rw [splitAtClose_eq_none_iff] at h ⊢
  have own := h text (List.prefix_append text after)
  constructor
  · apply List.count_eq_zero.mp
    omega
  · intro front before
    have bound := h (text ++ front) ((List.prefix_append_right_inj text).mpr before)
    simp only [List.count_append] at bound
    omega

/-! ## Balanced text -/

/-- There are as many closing angle brackets as opening ones, and in front of no place are
there more. -/
structure Balanced (text : List Char) : Prop where
  total : text.count '<' = text.count '>'
  early : ∀ front, front <+: text → front.count '>' ≤ front.count '<'

instance (text : List Char) : Decidable (Balanced text) :=
  decidable_of_iff (text.count '<' = text.count '>' ∧
      ∀ front ∈ text.inits, front.count '>' ≤ front.count '<')
    ⟨fun holds => ⟨holds.1, fun front within => holds.2 front ((List.mem_inits _ _).mpr within)⟩,
      fun balanced => ⟨balanced.total, fun front member =>
        balanced.early front ((List.mem_inits _ _).mp member)⟩⟩

namespace Balanced

variable {first second text : List Char}

theorem early_of_prefix (h : Balanced text) (within : first <+: text) :
    ∀ front, front <+: first → front.count '>' ≤ front.count '<' :=
  fun front before => h.early front (before.trans within)

theorem of_notMem (opens : '<' ∉ text) (closes : '>' ∉ text) : Balanced text where
  total := by rw [List.count_eq_zero.mpr opens, List.count_eq_zero.mpr closes]
  early front within := by
    have none : front.count '>' = 0 :=
      List.count_eq_zero.mpr fun member => closes (within.subset member)
    omega

theorem append (h : Balanced first) (h' : Balanced second) : Balanced (first ++ second) where
  total := by simp only [List.count_append, h.total, h'.total]
  early front within := by
    rcases List.prefix_or_prefix_of_prefix within (List.prefix_append first second) with
      before | ⟨part, rfl⟩
    · exact h.early front before
    · have own := h'.early part ((List.prefix_append_right_inj first).mp within)
      have total := h.total
      simp only [List.count_append]
      omega

/-- What stands behind text that closes all it opens is balanced if the whole is. -/
theorem of_append (h : Balanced (first ++ second)) (closed : first.count '<' ≤ first.count '>') :
    Balanced second where
  total := by
    have total := h.total
    have early := h.early first (List.prefix_append first second)
    simp only [List.count_append] at total
    omega
  early front within := by
    have early := h.early (first ++ front) ((List.prefix_append_right_inj first).mpr within)
    simp only [List.count_append] at early
    omega

/-- Text that closes no more brackets than are open is balanced once the others are closed. -/
theorem of_early {missing : Nat}
    (early : ∀ front, front <+: text → front.count '>' ≤ front.count '<')
    (total : text.count '<' = text.count '>' + missing) :
    Balanced (text ++ List.replicate missing '>') where
  total := by simpa [List.count_replicate] using total
  early front within := by
    rcases List.prefix_or_prefix_of_prefix within (List.prefix_append text _) with
      before | ⟨closing, rfl⟩
    · exact early front before
    · have length := ((List.prefix_append_right_inj text).mp within).length_le
      have some := @List.count_le_length _ _ '>' closing
      simp only [List.count_append, List.length_replicate] at length ⊢
      omega

theorem span (h : Balanced text) : Balanced ('<' :: (text ++ ['>'])) := by
  have opened : Balanced (('<' :: text) ++ List.replicate 1 '>') := by
    apply of_early
    · intro front within
      rcases List.prefix_cons_iff.mp within with rfl | ⟨front, rfl, before⟩
      · simp
      · have early := h.early front before
        simp only [count_opening]
        omega
    · simp only [count_opening, h.total]
  exact opened

/-- Between brackets, balanced text is the inside of a span. -/
theorem splitAtClose (h : Balanced text) (more : List Char) :
    Template.splitAtClose 0 (text ++ '>' :: more) = some (text, more) :=
  splitAtClose_eq_some_iff.mpr ⟨rfl, h.early, h.total.symm⟩

/-- The inside of a span is balanced. -/
theorem of_splitAtClose {inside after : List Char}
    (found : Template.splitAtClose 0 text = some (inside, after)) : Balanced inside where
  total := (splitAtClose_eq_some_iff.mp found).2.2.symm
  early := (splitAtClose_eq_some_iff.mp found).2.1

end Balanced

/-- A span never ends if at no place behind its opening bracket the two kinds are as many. -/
theorem splitAtClose_eq_none_iff_unbalanced {text : List Char} :
    splitAtClose 0 text = none ↔
      ∀ front, front <+: text → ('<' :: front).count '>' ≠ ('<' :: front).count '<' := by
  simp only [count_opening]
  constructor
  · intro unclosed front within
    have := (splitAtClose_eq_none_iff 0 text).mp unclosed front within
    omega
  · intro apart
    by_contra closed
    obtain ⟨⟨inside, after⟩, found⟩ := Option.ne_none_iff_exists'.mp closed
    obtain ⟨rfl, _, total⟩ := splitAtClose_eq_some_iff.mp found
    apply apart (inside ++ ['>']) ⟨after, by simp⟩
    simp [total]

/-! ## Text that closes what it opens -/

/-- No end of a text opens more brackets than it closes. -/
def ClosesOpened (text : List Char) : Prop :=
  ∀ rear, rear <:+ text → rear.count '<' ≤ rear.count '>'

namespace ClosesOpened

variable {first second text : List Char}

theorem count_le (h : ClosesOpened text) : text.count '<' ≤ text.count '>' :=
  h text List.suffix_rfl

theorem of_notMem (h : '<' ∉ text) : ClosesOpened text := by
  intro rear within
  have none : rear.count '<' = 0 := List.count_eq_zero.mpr fun member => h (within.subset member)
  omega

theorem append (h : ClosesOpened first) (h' : ClosesOpened second) :
    ClosesOpened (first ++ second) := by
  rintro rear ⟨front, same⟩
  rcases List.append_eq_append_iff.mp same with ⟨part, split, rfl⟩ | ⟨part, -, split⟩
  · have own := h part ⟨front, split.symm⟩
    have others := h'.count_le
    simp only [List.count_append]
    omega
  · exact h' rear ⟨part, split.symm⟩

theorem span (h : ClosesOpened text) : ClosesOpened ('<' :: (text ++ ['>'])) := by
  have closing : ClosesOpened ['>'] := of_notMem (by decide)
  intro rear within
  rcases List.suffix_cons_iff.mp within with rfl | inside
  · have own := h.count_le
    simp only [count_opening, List.count_append, count_closing, List.count_nil]
    omega
  · exact h.append closing rear inside

theorem tail {c : Char} (h : ClosesOpened (c :: text)) : ClosesOpened text :=
  fun rear within => h rear (within.trans (List.suffix_cons c text))

/-- Every bracket has its end within such a text. -/
theorem splitAtClose_ne_none (h : ClosesOpened ('<' :: text)) : splitAtClose 0 text ≠ none := by
  intro unclosed
  have early := (splitAtClose_eq_none_iff 0 text).mp unclosed text List.prefix_rfl
  have closed := h.count_le
  simp only [count_opening] at closed
  omega

end ClosesOpened

theorem Balanced.closesOpened {text : List Char} (h : Balanced text) : ClosesOpened text := by
  rintro rear ⟨front, rfl⟩
  have early := h.early front (List.prefix_append front rear)
  have total := h.total
  simp only [List.count_append] at total
  omega

end Stencil.Template
