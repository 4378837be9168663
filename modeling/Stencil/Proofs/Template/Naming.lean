import Stencil.Proofs.Template.SlotGroups
/-!
# Names of groups

No expression names two groups alike. So the names in the pieces of a template differ
whenever its expression can be read, and need not be compared beforehand.
-/
namespace Stencil

namespace Regex

/-- A text that is read as the same lexemes whichever groups are open around it, and behind
which blanks mean what they mean before it. -/
structure Stretch (text : List Char) (lexemes : List Lexeme) : Prop where
  apart : Lexeme.Apart false text
  lexed : ∀ outer, Lexeme.readAll ⟨false, outer⟩ text = .ok lexemes
  blanks : ∀ outer, lexemes.foldl Verbosity.after ⟨false, outer⟩ = ⟨false, outer⟩

namespace Stretch

variable {text more : List Char} {lexemes following : List Lexeme}

theorem nil : Stretch [] [] where
  apart := by simp [Lexeme.apart_false]
  lexed _ := Lexeme.readAll_nil _
  blanks _ := rfl

/-- What stands behind a stretch is read as if the stretch were not there. -/
theorem readAll_append (h : Stretch text lexemes) (apart : Lexeme.Apart false more)
    (outer : List Bool) : Lexeme.readAll ⟨false, outer⟩ (text ++ more) =
      (Lexeme.readAll ⟨false, outer⟩ more).map (lexemes ++ ·) := by
  have final := h.blanks outer
  obtain ⟨tail, left, whole⟩ := Lexeme.readAll_append (h.lexed outer) (by rwa [final])
  rw [final] at left whole
  obtain rfl := left.2 rfl
  exact whole

theorem append (h : Stretch text lexemes) (h' : Stretch more following) :
    Stretch (text ++ more) (lexemes ++ following) where
  apart := h.apart.append h'.apart
  lexed outer := by
    rw [h.readAll_append h'.apart, h'.lexed]
    rfl
  blanks outer := by rw [List.foldl_append, h.blanks, h'.blanks]

/-- Within a group that a stretch closes, a mark behind the group stands outside it. -/
private theorem closed (h : Stretch text lexemes) {c : Char} {mark : Lexeme}
    (read : Lexeme.read false c [] = .ok (mark, []))
    (unchanged : ∀ verbosity : Verbosity, verbosity.after mark = verbosity) (outer : List Bool) :
    Lexeme.readAll ⟨false, false :: outer⟩ (text ++ [')', c]) =
        .ok (lexemes ++ [.close, mark]) ∧
      (lexemes ++ [.close, mark]).foldl Verbosity.after ⟨false, false :: outer⟩ =
        ⟨false, outer⟩ := by
  constructor
  · have last : Lexeme.readAll ⟨false, outer⟩ [c] = .ok [mark] := by
      rw [Lexeme.readAll_of_ok rfl read, Lexeme.readAll_nil]
      rfl
    have close : Lexeme.readAll ⟨false, false :: outer⟩ [')', c] = .ok [.close, mark] := by
      rw [Lexeme.readAll_close]
      change (Lexeme.readAll ⟨false, outer⟩ [c]).map _ = _
      rw [last]
      rfl
    rw [h.readAll_append (by simp [Lexeme.apart_false]), close]
    rfl
  · rw [List.foldl_append, h.blanks]
    exact unchanged _

/-- A group around a stretch that repeats once at most. -/
theorem optional (h : Stretch text lexemes) : Stretch ('(' :: (text ++ [')', '?']))
    (.openCapture none :: (lexemes ++ [.close, .quantifier .atMostOne true])) where
  apart := by simp [Lexeme.apart_false]
  lexed outer := by
    have begins : Lexeme.Apart false (text ++ [')', '?']) :=
      h.apart.append (by simp [Lexeme.apart_false])
    rw [Lexeme.readAll_of_ok rfl (Builds.read_open begins)]
    change (Lexeme.readAll ⟨false, false :: outer⟩ _).map _ = _
    rw [(h.closed rfl (fun _ => rfl) outer).1]
    rfl
  blanks outer := (h.closed (c := '?') rfl (fun _ => rfl) outer).2

/-- Anchors around a stretch. -/
theorem anchor (h : Stretch text lexemes) : Stretch (Template.anchor text)
    (.atom .caret :: .openGroup {} :: (lexemes ++ [.close, .atom .dollar])) where
  apart := by simp [Lexeme.apart_false, Template.anchor_eq]
  lexed outer := by
    rw [Template.anchor_eq, Lexeme.readAll_of_ok rfl rfl]
    change (Lexeme.readAll ⟨false, outer⟩ _).map _ = _
    rw [Lexeme.readAll_of_ok rfl rfl]
    change ((Lexeme.readAll ⟨false, false :: outer⟩ _).map _).map _ = _
    rw [(h.closed rfl (fun _ => rfl) outer).1]
    rfl
  blanks outer := (h.closed (c := '$') rfl (fun _ => rfl) outer).2

end Stretch

/-- A builder never takes a name that it has already. -/
theorem Builder.nodup_step {builder builder' : Builder} {lexeme : Lexeme}
    (h : builder.step lexeme = .ok builder') (nodup : builder.names.Nodup) :
    builder'.names.Nodup := by
  cases lexeme with
  | openCapture name =>
    cases name with
    | none =>
      cases h
      exact nodup
    | some name =>
      obtain ⟨new, rfl⟩ := step_named_iff.mp h
      exact List.nodup_cons.mpr ⟨new, nodup⟩
  | _ =>
    have same := names_step h
    rw [same]
    exact nodup

/-- The names of the groups in an expression differ. -/
theorem Stretch.nodup {text : List Char} {lexemes : List Lexeme} {pattern : Pattern}
    (h : Stretch text lexemes) (read : Pattern.read text = .ok pattern) :
    (lexemes.filterMap Lexeme.groupName?).Nodup := by
  obtain ⟨lexemes', after, reads, _⟩ := Pattern.reads_of_read read
  -- a stretch has one reading, so these are the lexemes that the builder took
  obtain rfl := Except.ok.inj ((h.lexed []).symm.trans reads.lexed)
  have nodup := Builder.foldlM_keeps Builder.nodup_step reads.built List.nodup_nil
  rw [Builder.names_foldlM reads.built, List.append_nil] at nodup
  exact (List.reverse_perm _).nodup_iff.mp nodup

end Regex

namespace Template.Fits

variable {template : Template} {dictionary : Dictionary} {options : Options}
  {allowed : Regex.FlagChange → Bool}

end Template.Fits

end Stencil
