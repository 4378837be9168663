import Mathlib
import Stencil.Proofs.Template.Cursor.Safety
/-!
# Windows and substrings

A window is read as its text is read alone, with offsets that count the text in front of it. What
stands around the window is neither looked at nor does it matter.
-/
namespace Stencil.Template

open Text (Stands)

variable {source : String} {window : ByteSpan}

/-- The text in a window, as a source of its own. -/
def IsWindow.part (valid : IsWindow source window) : String :=
  source.extract ⟨_, valid.start⟩ ⟨_, valid.stop⟩

theorem IsWindow.stands (valid : IsWindow source window) :
    Stands source valid.part.toList window.start window.stop := by
  obtain ⟨text, stands⟩ := Stands.of_isValid valid.ordered valid.start valid.stop
  rw [IsWindow.part, stands.extract_eq, String.toList_ofList]
  exact stands

namespace Cursor

variable {dictionary : Dictionary}

/-- What the cursor reads of a window is what is read of its text, further on in the source. -/
theorem result_readWindow_of_part (valid : IsWindow source window) :
    (readWindow dictionary source window).result =
      (shifted window.start (Template.readWindow dictionary 0 valid.part.toList)).mapFault
        Halt.fault := by
  rw [result_readWindow valid.stands, ← readWindow_add, Nat.zero_add]

/-- A window whose edges split no character is read as its text alone, brackets closed or not: the
same segments, or the same fault with its offsets moved, and the same entries with theirs. Nothing
is done outside the window, and another source with the same text there is read alike. -/
theorem readWindow_of_substring (dictionary : Dictionary) (source : String) (window : ByteSpan)
    (valid : IsWindow source window) :
    (readWindow dictionary source window).result.outcome =
        ((Template.read dictionary valid.part).outcome.mapError
          (Fault.shift window.start)).mapError Halt.fault ∧
      .scanning valid.part :: (readWindow dictionary source window).result.log =
        (Template.read dictionary valid.part).log.map (shiftEntry window.start) ∧
      (∀ inner act, (inner, act) ∈ (readWindow dictionary source window).acts →
        act.IsSafe source inner ∧ window.start ≤ inner.start ∧ inner.stop ≤ window.stop) ∧
      ∀ (other : String) (valid' : IsWindow other window), valid'.part = valid.part →
        (readWindow dictionary other window).result =
          (readWindow dictionary source window).result := by
  have moved := @result_readWindow_of_part source window dictionary valid
  refine ⟨?_, ?_, ?_, ?_⟩
  · rw [moved, outcome_read]
    rfl
  · rw [moved, Template.read, Logged.emit_bind]
    rfl
  · intro inner act member
    have kept := @keeps_readWindow dictionary source window valid
    exact (kept.acts inner act member).2
  · intro other valid' same
    rw [moved, result_readWindow_of_part valid', same]

/-- In a window that begins behind a bracket that is never closed, an unknown name is reported where
it stands in the source, whatever stands around. With the bracket in the window, that is the
fault. -/
theorem readWindow_behind_bracket :
    let dictionary : Dictionary := ⟨fun name => if name = "a" then some "(x)" else none,
      fun name => name == "a"⟩
    let source := "→<é{a}<é{b}>"
    (IsWindow source ⟨4, 16⟩ ∧
      (readWindow dictionary source ⟨4, 16⟩).result.outcome =
        .error (.fault (.unknownPlaceholder "b" ⟨12, 15⟩)) ∧
      (readWindow dictionary source ⟨4, 16⟩).result.log =
        [.acceptedPlaceholder "a", .foundOptional 9 15]) ∧
    ((⟨10, 15⟩, .cutText 13 14) ∈ (readWindow dictionary source ⟨4, 16⟩).acts ∧
      (Act.cutText 13 14).IsSafe source ⟨10, 15⟩) ∧
    (readWindow dictionary "xyz\x7dé{a}<é{b}>\x7b" ⟨4, 16⟩).result =
      (readWindow dictionary source ⟨4, 16⟩).result ∧
    IsWindow source ⟨3, 16⟩ ∧
      (readWindow dictionary source ⟨3, 16⟩).result.outcome =
        .error (.fault (.unclosedOptional 3)) := by
  intro dictionary source
  have behind : IsWindow source ⟨4, 16⟩ := ⟨by decide, by decide, by decide⟩
  have before : IsWindow source ⟨3, 16⟩ := ⟨by decide, by decide, by decide⟩
  have elsewhere : IsWindow "xyz\x7dé{a}<é{b}>\x7b" ⟨4, 16⟩ := ⟨by decide, by decide, by decide⟩
  have part : behind.part = "é{a}<é{b}>" := by cbv
  have part' : before.part = "<é{a}<é{b}>" := by cbv
  have same : elsewhere.part = behind.part := by cbv
  have cut : (⟨10, 15⟩, .cutText 13 14) ∈ (readWindow dictionary source ⟨4, 16⟩).acts :=
    List.contains_iff_mem.mp (by cbv)
  obtain ⟨outcome, log, acts, alike⟩ := readWindow_of_substring dictionary source _ behind
  obtain ⟨outcome', _⟩ := readWindow_of_substring dictionary source _ before
  have reading : Template.read dictionary "é{a}<é{b}>" =
      ⟨[.scanning "é{a}<é{b}>", .acceptedPlaceholder "a", .foundOptional 5 11],
        .error (.unknownPlaceholder "b" ⟨8, 11⟩)⟩ := by cbv
  have reading' : (Template.read dictionary "<é{a}<é{b}>").outcome =
      .error (.unclosedOptional 0) := by cbv
  rw [part, reading] at outcome log
  rw [part', reading'] at outcome'
  exact ⟨⟨behind, outcome, (List.cons.inj log).2⟩, ⟨cut, (acts _ _ cut).1⟩,
    alike _ elsewhere same, before, outcome'⟩

end Cursor

end Stencil.Template
