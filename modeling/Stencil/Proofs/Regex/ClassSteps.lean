import Mathlib.Data.List.TakeWhile
import Stencil.Regex.Lexeme.Brackets
/-!
# Bracketed classes step by step

A bracketed class is read in steps: a bracket that opens or closes a class within it, an
operation, a member, or a range. This file says which steps there are, so that what holds of
each of them holds of a whole class.
-/
namespace Stencil.Regex

namespace Lexeme

/-! ## Members and ranges -/

/-- A hyphen in front of what is left stands for itself: the class ends behind it, or another
hyphen follows. -/
def HyphenEnds (verbose : Bool) (after : List Char) : Prop :=
  afterHyphen verbose after = some ']' ∨ afterHyphen verbose after = some '-'

private theorem hyphenEnds_iff {verbose : Bool} {after : List Char} :
    (afterHyphen verbose after = some ']' || afterHyphen verbose after = some '-') = true ↔
      HyphenEnds verbose after := by
  simp [HyphenEnds]

/-- What is read at once in a class, with what is left behind it: one member, or a range. -/
inductive RangeAt (verbose : Bool) (text : List Char) : CharSet → List Char → Prop
  | alone {set : CharSet} {next rest : List Char}
      (member : readMember verbose text = .ok (set, next)) (left : trim verbose next = rest)
      (ends : ∀ after, rest = '-' :: after → HyphenEnds verbose after) :
    RangeAt verbose text set rest
  | range {first second : CharSet} {next after rest : List Char} {low high : Char}
      (member : readMember verbose text = .ok (first, next))
      (hyphen : trim verbose next = '-' :: after) (joins : ¬HyphenEnds verbose after)
      (member' : readMember verbose (trim verbose after) = .ok (second, rest))
      (begins : rangeEnd first = .ok low) (stops : rangeEnd second = .ok high)
      (ordered : low ≤ high) :
    RangeAt verbose text (.range low high) rest

theorem readRange_eq_ok_iff {verbose : Bool} {text rest : List Char} {found : CharSet} :
    readRange verbose text = .ok (found, rest) ↔ RangeAt verbose text found rest := by
  constructor
  · intro h
    obtain ⟨⟨first, next⟩, member, h⟩ := bind_eq_ok h
    dsimp only at h
    split at h
    · rename_i after hyphen
      split at h
      · rename_i ends
        cases h
        refine .alone member hyphen ?_
        intro other same
        cases same
        exact hyphenEnds_iff.mp ends
      · rename_i joins
        obtain ⟨⟨second, behind⟩, member', h⟩ := bind_eq_ok h
        obtain ⟨low, begins, h⟩ := bind_eq_ok h
        obtain ⟨high, stops, h⟩ := bind_eq_ok h
        dsimp only at h
        split at h
        · rename_i ordered
          cases h
          exact .range member hyphen (mt hyphenEnds_iff.mpr joins) member' begins stops ordered
        · cases h
    · rename_i plain
      cases h
      exact .alone member rfl fun after same => absurd same (plain after)
  · intro h
    cases h with
    | alone member left ends =>
      rw [readRange, member]
      dsimp only [bind, Except.bind]
      rw [left]
      split
      · exact if_pos (hyphenEnds_iff.mpr (ends _ rfl))
      · rfl
    | range member hyphen joins member' begins stops ordered =>
      simp only [readRange, member, hyphen, if_neg (mt hyphenEnds_iff.mp joins), member', begins,
        stops, if_pos ordered, bind, Except.bind]

/-- A member takes a character at least. -/
theorem readMember_shorter {verbose : Bool} {text rest : List Char} {found : CharSet}
    (h : readMember verbose text = .ok (found, rest)) : rest.length < text.length := by
  unfold readMember at h
  split at h
  · cases h
  · obtain ⟨⟨item, left⟩, read, h⟩ := bind_eq_ok h
    obtain rfl : left = rest := by
      split at h <;> cases h <;> rename_i same <;> cases same <;> rfl
    exact Nat.lt_succ_of_le (readEscape_suffix read).length_le
  · cases h
    exact Nat.lt_succ_self _

/-- What is read at once in a class takes a character at least. -/
theorem readRange_shorter {verbose : Bool} {text rest : List Char} {found : CharSet}
    (h : readRange verbose text = .ok (found, rest)) : rest.length < text.length := by
  cases readRange_eq_ok_iff.mp h with
  | @alone _ next _ member left ends =>
    have late := (trim_suffix verbose next).length_le
    rw [left] at late
    exact Nat.lt_of_le_of_lt late (readMember_shorter member)
  | @range _ _ next after _ _ _ member hyphen joins member' begins stops ordered =>
    have late := (trim_suffix verbose next).length_le
    have inner := (trim_suffix verbose after).length_le
    have first := readMember_shorter member
    have second := readMember_shorter member'
    rw [hyphen, List.length_cons] at late
    omega

/-! ## Steps -/

/-- The operations on sets with the characters that stand for them when doubled. -/
def setOperation? : Char → Option SetOperation
  | '&' => some .inter
  | '-' => some .diff
  | '~' => some .symmDiff
  | _ => none

/-- Whether a text in a class begins with a member, and not with a bracket or an operation. -/
def startsMember : List Char → Bool
  | [] => false
  | c :: rest => c != ']' && c != '[' && !((setOperation? c).isSome && rest.head? == some c)

/-- What reading does at the front of a text within a class: which classes are open behind it,
the innermost among them, and the text that is left. -/
inductive ClassStep (verbose : Bool) (enclosing : List OpenClass) (openClass : OpenClass)
    (text : List Char) : List OpenClass → OpenClass → List Char → Prop
  | close {outer : OpenClass} {around : List OpenClass} {rest : List Char}
      (mark : text = ']' :: rest) (within : enclosing = outer :: around) :
    ClassStep verbose enclosing openClass text around
      (outer.add openClass.close.1 openClass.close.2) rest
  | named {tail rest : List Char} {set : CharSet} (mark : text = '[' :: tail)
      (named : asciiClassAt? tail = some (set, rest)) :
    ClassStep verbose enclosing openClass text enclosing (openClass.add set 0) rest
  | inner {tail rest : List Char} {inner : OpenClass} (mark : text = '[' :: tail)
      (unnamed : asciiClassAt? tail = none) (head : readClassHead verbose tail = (inner, rest)) :
    ClassStep verbose enclosing openClass text (openClass :: enclosing) inner rest
  | operation {c : Char} {operation : SetOperation} {rest : List Char}
      (mark : text = c :: c :: rest) (known : setOperation? c = some operation) :
    ClassStep verbose enclosing openClass text enclosing (openClass.operate operation) rest
  | member {set : CharSet} {rest : List Char} (starts : startsMember text = true)
      (read : readRange verbose text = .ok (set, rest)) :
    ClassStep verbose enclosing openClass text enclosing (openClass.add set 0) rest

private theorem of_startsMember_eq_false {text : List Char} (h : startsMember text = false) :
    text = [] ∨ (∃ rest, text = ']' :: rest) ∨ (∃ rest, text = '[' :: rest) ∨
      (∃ rest, text = '&' :: '&' :: rest) ∨ (∃ rest, text = '-' :: '-' :: rest) ∨
      ∃ rest, text = '~' :: '~' :: rest := by
  cases text with
  | nil => exact .inl rfl
  | cons c rest =>
    by_cases closes : c = ']'
    · exact .inr (.inl ⟨rest, by rw [closes]⟩)
    by_cases opens : c = '['
    · exact .inr (.inr (.inl ⟨rest, by rw [opens]⟩))
    have doubled : (setOperation? c).isSome = true ∧ rest.head? = some c := by
      simpa [startsMember, closes, opens] using h
    obtain ⟨known, twice⟩ := doubled
    obtain ⟨rest, rfl⟩ := List.head?_eq_some_iff.mp twice
    unfold setOperation? at known
    split at known
    · exact .inr (.inr (.inr (.inl ⟨rest, rfl⟩)))
    · exact .inr (.inr (.inr (.inr (.inl ⟨rest, rfl⟩))))
    · exact .inr (.inr (.inr (.inr (.inr ⟨rest, rfl⟩))))
    · cases known

/-- A class is read up to the bracket that closes the outermost, one step after another. -/
theorem readClassBody_eq_ok_iff {verbose : Bool} {enclosing : List OpenClass}
    {openClass : OpenClass} {fuel : Nat} {text rest : List Char} {found : CharSet × Nat} :
    readClassBody verbose enclosing openClass (fuel + 1) text = .ok (found, rest) ↔
      (enclosing = [] ∧ trim verbose text = ']' :: rest ∧ openClass.close = found) ∨
      ∃ enclosing' openClass' text',
        ClassStep verbose enclosing openClass (trim verbose text) enclosing' openClass' text' ∧
          readClassBody verbose enclosing' openClass' fuel text' = .ok (found, rest) := by
  constructor
  · intro h
    rw [readClassBody] at h
    split at h
    · cases h
    · rename_i mark
      dsimp only at h
      split at h
      · cases h
        exact .inl ⟨rfl, mark, rfl⟩
      · exact .inr ⟨_, _, _, .close mark rfl, h⟩
    · rename_i mark
      split at h
      · rename_i named
        exact .inr ⟨_, _, _, .named mark named, h⟩
      · rename_i unnamed
        exact .inr ⟨_, _, _, .inner mark unnamed rfl, h⟩
    · rename_i mark
      exact .inr ⟨_, _, _, .operation mark rfl, h⟩
    · rename_i mark
      exact .inr ⟨_, _, _, .operation mark rfl, h⟩
    · rename_i mark
      exact .inr ⟨_, _, _, .operation mark rfl, h⟩
    · -- no mark stands at the front, so a member does
      rename_i nothing closes opens inter diff symmDiff
      obtain ⟨⟨set, left⟩, read, h⟩ := bind_eq_ok h
      refine .inr ⟨_, _, _, .member ?_ read, h⟩
      by_contra other
      rcases of_startsMember_eq_false (Bool.not_eq_true _ ▸ other) with
        same | ⟨_, same⟩ | ⟨_, same⟩ | ⟨_, same⟩ | ⟨_, same⟩ | ⟨_, same⟩
      · exact nothing same
      · exact closes _ same
      · exact opens _ same
      · exact inter _ same
      · exact diff _ same
      · exact symmDiff _ same
  · intro h
    rw [readClassBody]
    rcases h with ⟨rfl, mark, rfl⟩ | ⟨enclosing', openClass', text', step, h⟩
    · rw [mark]
      rfl
    · cases step with
      | close mark within =>
        rw [mark, within]
        exact h
      | named mark named =>
        rw [mark]
        simp only [named]
        exact h
      | inner mark unnamed head =>
        rw [mark]
        simp only [unnamed, head]
        exact h
      | operation mark known =>
        rw [mark]
        unfold setOperation? at known
        split at known <;> cases known <;> exact h
      | member starts read =>
        split
        case h_7 =>
          rw [read]
          exact h
        all_goals
          rename_i mark
          rw [mark] at starts
          cases starts

namespace ClassStep

variable {verbose : Bool} {enclosing enclosing' : List OpenClass} {openClass openClass' : OpenClass}
  {text rest : List Char}

theorem suffix (h : ClassStep verbose enclosing openClass text enclosing' openClass' rest) :
    rest <:+ text := by
  cases h with
  | close mark within => exact mark ▸ List.suffix_cons _ _
  | named mark named => exact mark ▸ (asciiClassAt?_suffix named).trans (List.suffix_cons _ _)
  | @inner tail _ _ mark unnamed head =>
    have behind := readClassHead_suffix verbose tail
    rw [head] at behind
    exact mark ▸ behind.trans (List.suffix_cons _ _)
  | operation mark known =>
    exact mark ▸ (List.suffix_cons _ _).trans (List.suffix_cons _ _)
  | member starts read => exact readRange_suffix read

theorem shorter (h : ClassStep verbose enclosing openClass text enclosing' openClass' rest) :
    rest.length < text.length := by
  cases h with
  | close mark within =>
    rw [mark]
    exact Nat.lt_succ_self _
  | named mark named =>
    rw [mark]
    exact Nat.lt_succ_of_le (asciiClassAt?_suffix named).length_le
  | @inner tail _ _ mark unnamed head =>
    have behind := readClassHead_suffix verbose tail
    rw [head] at behind
    rw [mark]
    exact Nat.lt_succ_of_le behind.length_le
  | operation mark known =>
    rw [mark]
    exact Nat.lt_succ_of_lt (Nat.lt_succ_self _)
  | member starts read => exact readRange_shorter read

end ClassStep

end Lexeme

end Stencil.Regex
