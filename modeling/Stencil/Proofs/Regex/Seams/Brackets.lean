import Stencil.Proofs.Regex.ClassSteps
import Stencil.Proofs.Regex.Seams.Escape
/-!
# Bracketed classes at a seam

A class ends with a bracket of its own, so that nothing behind it is looked at.
-/
namespace Stencil.Regex

namespace Lexeme

private theorem mem_dropWhile {p : Char → Bool} {text : List Char} {c : Char} (h : c ∈ text)
    (fails : p c = false) : c ∈ text.dropWhile p := by
  rw [← List.takeWhile_append_dropWhile (p := p) (l := text), List.mem_append] at h
  rcases h with front | behind
  · exact absurd (List.mem_takeWhile_imp front) (by simp [fails])
  · exact behind

theorem readMember_append {verbose : Bool} {text rest : List Char} {found : CharSet}
    (h : readMember verbose text = .ok (found, rest)) (nonempty : rest ≠ []) (more : List Char) :
    readMember verbose (text ++ more) = .ok (found, rest ++ more) := by
  unfold readMember at h
  split at h
  · cases h
  · rename_i escape
    obtain ⟨⟨item, after⟩, read, h⟩ := bind_eq_ok h
    have same : after = rest := by
      split at h <;> cases h <;> rename_i same <;> cases same <;> rfl
    subst same
    obtain ⟨tail, left, whole⟩ := readEscape_append read (fun empty => absurd empty nonempty)
    rw [left.2 (.inr nonempty)] at whole
    rw [List.cons_append, readMember, whole]
    split at h <;> cases h <;> rename_i same <;> cases same <;> rfl
  · rename_i c after escape
    cases h
    rw [List.cons_append, readMember.eq_3 _ _ _ escape]

/-- The class closes behind the hyphen, so the look at what follows it stays within. -/
theorem afterHyphen_append {text : List Char} (closes : ']' ∈ text) (verbose : Bool)
    (more : List Char) : afterHyphen verbose (text ++ more) = afterHyphen verbose text := by
  have head : (text ++ more).head? = text.head? := by
    cases text with
    | nil => cases closes
    | cons c text => rfl
  cases verbose with
  | false => exact head
  | true =>
    simp only [afterHyphen, if_true, head]
    have inner := mem_dropWhile (p := isSpace) closes (by decide)
    cases front : text.dropWhile isSpace with
    | nil =>
      rw [front] at inner
      cases inner
    | cons c behind =>
      rw [(dropWhile_append_of_cons front more).1]
      by_cases mark : c = '#'
      · subst mark
        rw [front] at inner
        have inner' : ']' ∈ behind := by simpa using inner
        have further := mem_dropWhile (p := isSpace) inner' (by decide)
        cases front' : behind.dropWhile isSpace with
        | nil =>
          rw [front'] at further
          cases further
        | cons d comment => simp only [(dropWhile_append_of_cons front' more).1, front']
      · simp

theorem readRange_append {verbose : Bool} {text rest : List Char} {found : CharSet}
    (h : readRange verbose text = .ok (found, rest)) (closes : ']' ∈ rest) (more : List Char) :
    readRange verbose (text ++ more) = .ok (found, rest ++ more) := by
  have longer {text next left : List Char} {set : CharSet} {c : Char}
      (member : readMember verbose text = .ok (set, next)) (front : trim verbose next = c :: left) :
      readMember verbose (text ++ more) = .ok (set, next ++ more) ∧
        trim verbose (next ++ more) = c :: (left ++ more) := by
    have some : next ≠ [] := by
      intro empty
      rw [empty] at front
      cases verbose <;> cases front
    exact ⟨readMember_append member some more, trim_append_of_cons front more⟩
  rw [readRange_eq_ok_iff] at h ⊢
  cases h with
  | alone member left ends =>
    cases rest with
    | nil => cases closes
    | cons c rest =>
      have whole := longer member left
      refine .alone whole.1 whole.2 ?_
      intro after same
      obtain ⟨rfl, rfl⟩ := List.cons.inj (show c :: (rest ++ more) = '-' :: after from same)
      have within : ']' ∈ rest := by simpa using closes
      rw [HyphenEnds, afterHyphen_append within]
      exact ends rest rfl
  | @range _ _ next after _ _ _ member hyphen joins member' begins stops ordered =>
    have within : ']' ∈ after :=
      ((readMember_suffix member').trans (trim_suffix verbose after)).subset closes
    have front : trim verbose after ≠ [] := by
      intro empty
      rw [empty] at member'
      cases member'
    have whole := longer member hyphen
    refine .range whole.1 whole.2 ?_ ?_ begins stops ordered
    · rwa [HyphenEnds, afterHyphen_append within]
    · rw [trim_append_of_ne_nil front]
      exact readMember_append member' (List.ne_nil_of_mem closes) more

private theorem asciiClass?_eq_none {name : List Char} (h : ']' ∈ name) :
    asciiClass? (String.ofList name) = none := by
  have listed : ∀ entry ∈ asciiClasses, ']' ∉ entry.1.toList := by decide
  refine Option.map_eq_none_iff.mpr (List.lookup_eq_none_iff.mpr ?_)
  intro entry known
  rw [bne_iff_ne]
  intro same
  apply listed entry known
  rw [← same, String.toList_ofList]
  exact h

private theorem asciiMembers?_append {text : List Char} (closes : ']' ∈ text) (negated : Bool)
    (more : List Char) : asciiMembers? negated (text ++ more) =
      (asciiMembers? negated text).map fun (found, rest) => (found, rest ++ more) := by
  have whole := List.takeWhile_append_dropWhile (p := (· != ':')) (l := text)
  unfold asciiMembers?
  cases front : text.dropWhile (· != ':') with
  | nil =>
    rw [front, List.append_nil] at whole
    split
    · rw [asciiClass?_eq_none]
      · rfl
      · rw [List.takeWhile_append, whole, if_pos rfl]
        exact List.mem_append_left _ closes
    · rfl
  | cons c behind =>
    have colon := List.head?_dropWhile_not (· != ':') text
    rw [front] at colon whole
    obtain rfl : c = ':' := by simpa using colon
    rw [(dropWhile_append_of_cons front more).1, (dropWhile_append_of_cons front more).2]
    cases behind with
    | nil =>
      have name : ']' ∈ text.takeWhile (· != ':') := by
        rw [← whole] at closes
        simpa using closes
      rw [asciiClass?_eq_none name]
      split <;> rfl
    | cons d rest =>
      by_cases bracket : d = ']'
      · subst bracket
        simp [Function.comp_def]
      · simp [bracket]

/-- A class that is named between colons stays the same, and none is found if the class
around it closes further on. -/
theorem asciiClassAt?_append {text : List Char} (closes : ']' ∈ text) (more : List Char) :
    asciiClassAt? (text ++ more) =
      (asciiClassAt? text).map fun (found, rest) => (found, rest ++ more) := by
  cases text with
  | nil => cases closes
  | cons c text =>
    by_cases colon : c = ':'
    · subst colon
      have within : ']' ∈ text := by simpa using closes
      cases text with
      | nil => cases within
      | cons d text =>
        by_cases caret : d = '^'
        · subst caret
          exact asciiMembers?_append (by simpa using within) true more
        · have direct (text : List Char) :
              asciiClassAt? (':' :: d :: text) = asciiMembers? false (d :: text) := by
            simp [asciiClassAt?, caret]
          rw [List.cons_append, List.cons_append, direct, direct]
          exact asciiMembers?_append within false more
    · simp [asciiClassAt?, colon]

private theorem readLeading_append {verbose negated : Bool} {text rest : List Char}
    {openClass : OpenClass} (h : readLeading verbose negated text = (openClass, rest))
    (nonempty : rest ≠ []) (more : List Char) :
    readLeading verbose negated (text ++ more) = (openClass, rest ++ more) := by
  unfold readLeading at h ⊢
  cases taken : takeSpelled verbose (· == '-') false text with
  | mk hyphens after =>
    rw [taken] at h
    cases after with
    | nil =>
      cases h
      exact absurd rfl nonempty
    | cons c after =>
      rw [takeSpelled_append taken]
      by_cases bracket : c = ']'
      · subst bracket
        by_cases first : hyphens.isEmpty
        · simp only [first, if_true] at h ⊢
          cases h
          rfl
        · simp only [first] at h ⊢
          cases h
          rfl
      · dsimp only at h ⊢
        split at h
        · rename_i same
          exact absurd (List.cons.inj same).1 bracket
        · cases h
          split
          · rename_i same
            exact absurd (List.cons.inj same).1 bracket
          · rfl

theorem readClassHead_append {verbose : Bool} {text rest : List Char} {openClass : OpenClass}
    (h : readClassHead verbose text = (openClass, rest)) (nonempty : rest ≠ [])
    (more : List Char) : readClassHead verbose (text ++ more) = (openClass, rest ++ more) := by
  have front : trim verbose text ≠ [] := by
    intro empty
    unfold readClassHead at h
    rw [empty] at h
    cases h
    exact nonempty rfl
  unfold readClassHead at h ⊢
  rw [trim_append_of_ne_nil front]
  cases same : trim verbose text with
  | nil => exact absurd same front
  | cons c behind =>
    rw [same] at h
    by_cases caret : c = '^'
    · subst caret
      exact readLeading_append h nonempty more
    · rw [List.cons_append]
      split at h
      · rename_i same
        exact absurd (List.cons.inj same).1 caret
      · split
        · rename_i same
          exact absurd (List.cons.inj same).1 caret
        · exact readLeading_append h nonempty more

theorem startsMember_append {text : List Char} (closes : ']' ∈ text) (more : List Char) :
    startsMember (text ++ more) = startsMember text := by
  rcases text with _ | ⟨c, _ | ⟨d, behind⟩⟩
  · cases closes
  · rw [List.mem_singleton] at closes
    subst closes
    rfl
  · simp [startsMember]

namespace ClassStep

variable {verbose : Bool} {enclosing enclosing' : List OpenClass} {openClass openClass' : OpenClass}
  {text rest : List Char}

/-- As long as the class closes further on, a step is the same whatever stands behind. -/
theorem append (h : ClassStep verbose enclosing openClass text enclosing' openClass' rest)
    (closes : ']' ∈ rest) (more : List Char) :
    ClassStep verbose enclosing openClass (text ++ more) enclosing' openClass' (rest ++ more) := by
  have within := h.suffix.subset closes
  cases h with
  | close mark within => exact .close (congrArg (· ++ more) mark) within
  | @named tail _ _ mark named =>
    have front : text ++ more = '[' :: (tail ++ more) := congrArg (· ++ more) mark
    refine .named front ?_
    rw [asciiClassAt?_append ((asciiClassAt?_suffix named).subset closes), named]
    rfl
  | @inner tail _ _ mark unnamed head =>
    have front : text ++ more = '[' :: (tail ++ more) := congrArg (· ++ more) mark
    refine .inner front ?_ (readClassHead_append head (List.ne_nil_of_mem closes) more)
    rw [mark] at within
    rw [asciiClassAt?_append (by simpa using within), unnamed]
    rfl
  | operation mark known => exact .operation (congrArg (· ++ more) mark) known
  | member starts read =>
    refine .member ?_ (readRange_append read closes more)
    rw [startsMember_append within]
    exact starts

end ClassStep

/-- The bracket that closes a class stands right in front of what is left. -/
theorem close_of_readClassBody {verbose : Bool} {enclosing : List OpenClass}
    {openClass : OpenClass} {fuel : Nat} {text rest : List Char} {found : CharSet × Nat}
    (h : readClassBody verbose enclosing openClass fuel text = .ok (found, rest)) :
    ']' :: rest <:+ text := by
  induction fuel generalizing enclosing openClass text with
  | zero => cases h
  | succ fuel ih =>
    have whole := trim_suffix verbose text
    rcases readClassBody_eq_ok_iff.mp h with ⟨_, mark, _⟩ | ⟨_, _, _, step, next⟩
    · rwa [mark] at whole
    · exact ((ih next).trans step.suffix).trans whole

private theorem closes_of_readClassBody {verbose : Bool} {enclosing : List OpenClass}
    {openClass : OpenClass} {fuel : Nat} {text rest : List Char} {found : CharSet × Nat}
    (h : readClassBody verbose enclosing openClass fuel text = .ok (found, rest)) :
    ']' ∈ text :=
  (close_of_readClassBody h).subset List.mem_cons_self

/-- Neither text behind a class nor more fuel changes how its members are read. -/
theorem readClassBody_append {verbose : Bool} {enclosing : List OpenClass}
    {openClass : OpenClass} {fuel fuel' : Nat} {text rest : List Char} {found : CharSet × Nat}
    (h : readClassBody verbose enclosing openClass fuel text = .ok (found, rest))
    (enough : fuel ≤ fuel') (more : List Char) :
    readClassBody verbose enclosing openClass fuel' (text ++ more) =
      .ok (found, rest ++ more) := by
  induction fuel generalizing fuel' enclosing openClass text with
  | zero => cases h
  | succ fuel ih =>
    obtain ⟨fuel', rfl⟩ := Nat.exists_eq_add_of_le' enough
    have fewer : fuel ≤ fuel' + fuel := Nat.le_add_left _ _
    rw [Nat.add_succ, readClassBody_eq_ok_iff]
    rcases readClassBody_eq_ok_iff.mp h with ⟨outermost, mark, same⟩ | ⟨_, _, _, step, next⟩
    · exact .inl ⟨outermost, trim_append_of_cons mark more, same⟩
    · have closes := closes_of_readClassBody next
      have front := List.ne_nil_of_mem (step.suffix.subset closes)
      rw [trim_append_of_ne_nil front]
      exact .inr ⟨_, _, _, step.append closes more, ih next fewer⟩

theorem readClass_append {verbose : Bool} {text rest : List Char} {found : Atom}
    (h : readClass verbose text = .ok (found, rest)) (more : List Char) :
    readClass verbose (text ++ more) = .ok (found, rest ++ more) := by
  unfold readClass at h ⊢
  cases head : readClassHead verbose text with
  | mk openClass inside =>
    rw [head] at h
    obtain ⟨⟨⟨set, levels⟩, after⟩, read, h⟩ := bind_eq_ok h
    cases h
    have nonempty := List.ne_nil_of_mem (closes_of_readClassBody read)
    rw [readClassHead_append head nonempty]
    dsimp only
    rw [readClassBody_append read (by simp) more]
    rfl

end Lexeme

end Stencil.Regex
