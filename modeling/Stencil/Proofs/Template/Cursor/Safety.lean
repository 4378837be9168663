import Mathlib
import Stencil.Proofs.Template.Cursor.Reading
/-!
# What a cursor touches

A cursor keeps to its window. Every byte it looks at and every text it cuts out lies there, no
character is split, and it moves on at every turn into windows that get smaller. What carries this
is that delimiters are ASCII: an offset at one of them, or behind it, splits no character, and the
edges of every window are such offsets or those of the source.
-/
namespace Stencil.Template

open Text (isValid_of_ascii toNat_toChar)

/-- The edges of a window are in order and split no character of the source. -/
structure IsWindow (source : String) (window : ByteSpan) : Prop where
  ordered : window.start ≤ window.stop
  start : (String.Pos.Raw.mk window.start).IsValid source
  stop : (String.Pos.Raw.mk window.stop).IsValid source

/-- What an act may do in a window: look at bytes of the window, cut out what lies in it without
splitting a character, close a bracket that is open, move forward within the window, and enter a
window that is smaller on both sides. -/
def Act.IsSafe (source : String) (window : ByteSpan) : Act → Prop
  | look offset => window.start ≤ offset ∧ offset < window.stop
  | cutText start stop => (window.start ≤ start ∧ start ≤ stop ∧ stop ≤ window.stop) ∧
      (String.Pos.Raw.mk start).IsValid source ∧ (String.Pos.Raw.mk stop).IsValid source
  | cutBytes start stop => window.start ≤ start ∧ start ≤ stop ∧ stop ≤ window.stop
  | closeBracket depth => 1 ≤ depth
  | advance offset next => window.start ≤ offset ∧ offset < next ∧ next ≤ window.stop
  | enter inside => window.start < inside.start ∧ inside.stop < window.stop ∧
      IsWindow source inside

/-- All that is done is safe and done within a window, and the end is a value as promised or a
fault of the template. -/
structure Watched.Keeps {α : Type} (source : String) (outer : ByteSpan) (computation : Watched α)
    (promise : α → Prop) : Prop where
  acts : ∀ window act, (window, act) ∈ computation.acts →
    IsWindow source window ∧ act.IsSafe source window ∧
      outer.start ≤ window.start ∧ window.stop ≤ outer.stop
  value : ∀ value, computation.result.outcome = .ok value → promise value
  halt : ∀ reason, computation.result.outcome = .error reason → ∃ fault, reason = .fault fault

namespace Watched.Keeps

variable {α β : Type} {source : String} {window outer : ByteSpan}

theorem pure {value : α} {promise : α → Prop} (kept : promise value) :
    (Pure.pure value : Watched α).Keeps source outer promise where
  acts _ _ member := nomatch member
  value other same := by
    cases same
    exact kept
  halt _ impossible := nomatch impossible

theorem bind {first : Watched α} {next : α → Watched β} {halfway : α → Prop} {promise : β → Prop}
    (safe : first.Keeps source outer halfway)
    (goesOn : ∀ value, halfway value → (next value).Keeps source outer promise) :
    (first >>= next).Keeps source outer promise := by
  cases outcome : first.result.outcome with
  | error reason =>
    have acts := Watched.acts_bind_of_error next outcome
    have result := Logged.bind_of_error (fun value => (next value).result) outcome
    refine ⟨by rw [acts]; exact safe.acts, ?_, ?_⟩
    · intro value found
      rw [result_bind, result] at found
      cases found
    · intro other found
      rw [result_bind, result] at found
      cases found
      exact safe.halt reason outcome
  | ok value =>
    have acts := Watched.acts_bind_of_ok next outcome
    have result := Logged.bind_of_ok (fun value => (next value).result) outcome
    have further := goesOn value (safe.value value outcome)
    refine ⟨?_, ?_, ?_⟩
    · intro window act member
      rw [acts, List.mem_append] at member
      exact member.elim (safe.acts window act) (further.acts window act)
    · rw [result_bind, result]
      exact further.value
    · rw [result_bind, result]
      exact further.halt

theorem note {act : Act} (valid : IsWindow source window) (safe : act.IsSafe source window) :
    (Watched.note window act).Keeps source window fun _ => True where
  acts other act' member := by
    cases List.mem_singleton.mp member
    exact ⟨valid, safe, Nat.le_refl _, Nat.le_refl _⟩
  value _ _ := trivial
  halt _ impossible := nomatch impossible

theorem log (entry : Entry) : (Watched.log entry).Keeps source outer fun _ => True where
  acts _ _ member := nomatch member
  value _ _ := trivial
  halt _ impossible := nomatch impossible

theorem fault (fault : Fault) (promise : α → Prop) :
    (Watched.halt (.fault fault) : Watched α).Keeps source outer promise where
  acts _ _ member := nomatch member
  value _ impossible := nomatch impossible
  halt reason same := by
    cases same
    exact ⟨fault, rfl⟩

/-- What is done within a window is done within every window around it. -/
theorem widen {computation : Watched α} {promise : α → Prop} {inner : ByteSpan}
    (safe : computation.Keeps source inner promise) (low : outer.start ≤ inner.start)
    (high : inner.stop ≤ outer.stop) : computation.Keeps source outer promise where
  acts window act member := by
    obtain ⟨valid, own, above, below⟩ := safe.acts window act member
    exact ⟨valid, own, low.trans above, below.trans high⟩
  value := safe.value
  halt := safe.halt

end Watched.Keeps

namespace Cursor

open Watched (Keeps)

variable {dictionary : Dictionary} {source : String} {window : ByteSpan} {start offset : Nat}

/-! ## Acts -/

theorem keeps_look (valid : IsWindow source window) (low : window.start ≤ offset)
    (high : offset < window.stop) :
    (look source window offset).Keeps source window fun byte =>
      source.toByteArray[offset]? = some byte := by
  have inside : offset < source.toByteArray.size :=
    high.trans_le valid.stop.le_utf8ByteSize
  refine Keeps.bind (Keeps.note valid ⟨low, high⟩) fun _ _ => ?_
  rw [getElem?_pos source.toByteArray offset inside]
  exact Keeps.pure rfl

theorem keeps_cutText {stop : Nat} (valid : IsWindow source window) (low : window.start ≤ start)
    (ordered : start ≤ stop) (high : stop ≤ window.stop)
    (validStart : (String.Pos.Raw.mk start).IsValid source)
    (validStop : (String.Pos.Raw.mk stop).IsValid source) :
    (cutText source window start stop).Keeps source window fun _ => True := by
  refine Keeps.bind (Keeps.note valid ⟨⟨low, ordered, high⟩, validStart, validStop⟩) fun _ _ => ?_
  rw [dif_pos ⟨ordered, validStart, validStop⟩]
  exact Keeps.pure trivial

theorem keeps_cutBytes {stop : Nat} (valid : IsWindow source window) (low : window.start ≤ start)
    (ordered : start ≤ stop) (high : stop ≤ window.stop) :
    (cutBytes source window start stop).Keeps source window fun _ => True := by
  refine Keeps.bind (Keeps.note valid ⟨low, ordered, high⟩) fun _ _ => ?_
  rw [if_pos ⟨ordered, high.trans valid.stop.le_utf8ByteSize⟩]
  exact Keeps.pure trivial

theorem keeps_closeBracket (valid : IsWindow source window) (left : Nat) :
    (closeBracket window (left + 1)).Keeps source window fun other => other = left :=
  Keeps.bind (Keeps.note valid (Nat.le_add_left 1 left)) fun _ _ => Keeps.pure rfl

/-! ## Segments -/

/-- An offset that the cursor may move to from `start`. -/
structure Follows (source : String) (window : ByteSpan) (start next : Nat) : Prop where
  forward : start < next
  within : next ≤ window.stop
  isValid : (String.Pos.Raw.mk next).IsValid source

theorem isValid_of_mark {byte : UInt8} {mark : Char}
    (found : source.toByteArray[offset]? = some byte) (same : byte.toChar = mark)
    (ascii : mark.toNat < 128) : (String.Pos.Raw.mk offset).IsValid source ∧
      (String.Pos.Raw.mk (offset + 1)).IsValid source :=
  isValid_of_ascii found (by rwa [← toNat_toChar, same])

theorem keeps_literalEnd (valid : IsWindow source window) (low : window.start ≤ offset)
    (forward : start < offset) (high : offset ≤ window.stop) :
    (literalEnd source window offset).Keeps source window (Follows source window start) := by
  induction left : window.stop - offset generalizing offset with
  | zero =>
    rw [literalEnd, if_neg (by omega)]
    exact Keeps.pure ⟨by omega, Nat.le_refl _, valid.stop⟩
  | succ left ih =>
    rw [literalEnd, if_pos (by omega)]
    refine Keeps.bind (keeps_look valid low (by omega)) fun byte found => ?_
    split
    · exact ih (by omega) (by omega) (by omega) (by omega)
    · rename_i stops
      have mark : byte.toChar = '{' ∨ byte.toChar = '<' := by
        by_contra other
        simp [continuesLiteral, not_or.mp other] at stops
      refine Keeps.pure ⟨forward, high, ?_⟩
      rcases mark with same | same
      · exact (isValid_of_mark found same (by decide)).1
      · exact (isValid_of_mark found same (by decide)).1

theorem keeps_readLiteral (valid : IsWindow source window) (low : window.start ≤ start)
    (high : start < window.stop) (validStart : (String.Pos.Raw.mk start).IsValid source) :
    (readLiteral source window start).Keeps source window
      fun found => Follows source window start found.2 := by
  refine Keeps.bind (keeps_cutBytes valid (by omega) high (Nat.le_refl _)) fun _ _ => ?_
  refine Keeps.bind (keeps_literalEnd valid (by omega) (Nat.lt_succ_self start) high)
    fun stop follows => ?_
  refine Keeps.bind (keeps_cutText valid low (Nat.le_of_lt follows.forward) follows.within
    validStart follows.isValid) fun text _ => ?_
  exact Keeps.pure follows

/-- Braces are left at their closing one, and the name between the two is cut out. -/
theorem keeps_readBraces (valid : IsWindow source window) (low : window.start ≤ start)
    (validName : (String.Pos.Raw.mk (start + 1)).IsValid source) (forward : start < offset)
    (high : offset ≤ window.stop) :
    (readBraces dictionary source window start offset).Keeps source window
      fun found => ∀ segment next, found = some (segment, next) →
        Follows source window start next := by
  induction left : window.stop - offset generalizing offset with
  | zero =>
    rw [readBraces, if_neg (by omega)]
    exact Keeps.fault _ _
  | succ left ih =>
    rw [readBraces, if_pos (by omega)]
    refine Keeps.bind (keeps_look valid (by omega) (by omega)) fun byte found => ?_
    split
    · rename_i closes
      obtain ⟨validStop, validNext⟩ := isValid_of_mark found closes (by decide)
      refine Keeps.bind (keeps_cutText valid (by omega) forward high validName validStop)
        fun name _ => ?_
      split
      · split
        · refine Keeps.bind (Keeps.log _) fun _ _ => Keeps.pure ?_
          rintro segment next same
          cases same
          exact ⟨by omega, by omega, validNext⟩
        · exact Keeps.fault _ _
      · refine Keeps.pure ?_
        intro segment next none
        cases none
    · split
      · exact ih (by omega) (by omega) (by omega)
      · exact Keeps.fault _ _

/-- A span is read safely if the windows within it are. The bracket that opens it is counted before
any is closed, and it is the last one to be closed. -/
theorem keeps_readSpan (valid : IsWindow source window) (low : window.start ≤ start)
    {depth : Nat} (validInside : (String.Pos.Raw.mk (start + 1)).IsValid source)
    (forward : start ≤ offset) (high : offset ≤ window.stop)
    (opened : (depth = 0 ∧ offset = start ∧ ∃ byte, source.toByteArray[offset]? = some byte ∧
      byte.toChar = '<') ∨ (0 < depth ∧ start < offset))
    (within : ∀ close, close < window.stop → IsWindow source ⟨start + 1, close⟩ →
      (readSegments dictionary source ⟨start + 1, close⟩ (start + 1) nil).Keeps source
        ⟨start + 1, close⟩ fun _ => True) :
    (readSpan dictionary source window start offset depth).Keeps source window
      fun found => Follows source window start found.2 := by
  induction left : window.stop - offset generalizing offset depth with
  | zero =>
    rw [readSpan, if_neg (by omega)]
    exact Keeps.fault _ _
  | succ left ih =>
    rw [readSpan, if_pos (by omega)]
    refine Keeps.bind (keeps_look valid (by omega) (by omega)) fun byte found => ?_
    split
    · exact ih (by omega) (by omega) (.inr (by omega)) (by omega)
    · rename_i other
      -- the first byte is the bracket itself, so one is open from the second on
      obtain ⟨positive, later⟩ : 0 < depth ∧ start < offset := by
        rcases opened with ⟨-, -, byte', found', opens⟩ | opened
        · cases found.symm.trans found'
          exact absurd opens other
        · exact opened
      obtain ⟨depth, rfl⟩ : ∃ less, depth = less + 1 := ⟨depth - 1, by omega⟩
      split
      · rename_i closes
        obtain ⟨validStop, validNext⟩ := isValid_of_mark found closes (by decide)
        refine Keeps.bind (keeps_closeBracket valid depth) fun less same => ?_
        subst same
        split
        · have inside : IsWindow source ⟨start + 1, offset⟩ := ⟨later, validInside, validStop⟩
          have smaller : (Act.enter ⟨start + 1, offset⟩).IsSafe source window :=
            ⟨Nat.lt_succ_of_le low, by change offset < window.stop; omega, inside⟩
          refine Keeps.bind (Keeps.log _) fun _ _ => ?_
          refine Keeps.bind (Keeps.note valid smaller) fun _ _ => ?_
          refine Keeps.bind ((within offset (by omega) inside).widen
            (Nat.le_succ_of_le low) (by change offset ≤ window.stop; omega)) fun _ _ => ?_
          exact Keeps.pure ⟨by omega, by omega, validNext⟩
        · exact ih (by omega) (by omega) (.inr (by omega)) (by omega)
      · exact ih (by omega) (by omega) (.inr (by omega)) (by omega)

theorem keeps_readSegment (valid : IsWindow source window) (low : window.start ≤ offset)
    (high : offset < window.stop) (validStart : (String.Pos.Raw.mk offset).IsValid source)
    (within : ∀ close, close < window.stop → IsWindow source ⟨offset + 1, close⟩ →
      (readSegments dictionary source ⟨offset + 1, close⟩ (offset + 1) nil).Keeps source
        ⟨offset + 1, close⟩ fun _ => True) :
    (readSegment dictionary source window offset).Keeps source window
      fun found => Follows source window offset found.2 := by
  rw [readSegment]
  refine Keeps.bind (keeps_look valid low high) fun byte found => ?_
  split
  · rename_i opens
    have validName := (isValid_of_mark found opens (by decide)).2
    refine Keeps.bind (keeps_readBraces valid low validName (Nat.lt_succ_self offset) high)
      fun braces follows => ?_
    split
    · exact Keeps.pure (follows _ _ rfl)
    · exact keeps_readLiteral valid low high validStart
  · split
    · rename_i opens
      have validInside := (isValid_of_mark found opens (by decide)).2
      exact keeps_readSpan valid low validInside (Nat.le_refl offset) (Nat.le_of_lt high)
        (.inl ⟨rfl, rfl, byte, found, opens⟩) within
    · exact keeps_readLiteral valid low high validStart

/-- Windows within a window end before it does, and within one window the cursor moves on. -/
theorem keeps_readSegments (valid : IsWindow source window) (low : window.start ≤ offset)
    (high : offset ≤ window.stop) (validStart : (String.Pos.Raw.mk offset).IsValid source)
    (front : Template) :
    (readSegments dictionary source window offset front).Keeps source window fun _ => True := by
  induction bound : window.stop using Nat.strong_induction_on generalizing window offset front with
  | _ stop outer =>
    subst bound
    induction left : window.stop - offset using Nat.strong_induction_on
      generalizing offset front with
    | _ left inner =>
      subst left
      rw [readSegments]
      split
      · rename_i inside
        have within (close : Nat) (before : close < window.stop)
            (smaller : IsWindow source ⟨offset + 1, close⟩) :
            (readSegments dictionary source ⟨offset + 1, close⟩ (offset + 1) nil).Keeps source
              ⟨offset + 1, close⟩ fun _ => True :=
          outer close before smaller (Nat.le_refl _) smaller.ordered smaller.start nil rfl
        refine Keeps.bind (keeps_readSegment valid low inside validStart within)
          fun found follows => ?_
        obtain ⟨segment, next⟩ := found
        obtain ⟨forward, high', valid'⟩ := follows
        refine Keeps.bind (Keeps.note valid ⟨low, forward, high'⟩) fun _ _ => ?_
        rw [if_pos forward]
        exact inner _ (by omega) (by omega) high' valid' _ rfl
      · exact Keeps.pure trivial

theorem keeps_readWindow (valid : IsWindow source window) :
    (readWindow dictionary source window).Keeps source window fun _ => True :=
  keeps_readSegments valid (Nat.le_refl _) valid.ordered valid.start nil

theorem isWindow_whole (source : String) : IsWindow source ⟨0, source.utf8ByteSize⟩ :=
  ⟨Nat.zero_le _, String.Pos.Raw.isValid_zero, String.Pos.Raw.isValid_rawEndPos⟩

theorem keeps_read : (read dictionary source).Keeps source ⟨0, source.utf8ByteSize⟩ fun _ => True :=
  Keeps.bind (Keeps.log _) fun _ _ => keeps_readWindow (isWindow_whole source)

/-! ## Whole texts -/

/-- Reading with a cursor is reading, and it ends for every source: nothing is asked for that is not
there, and the cursor never stays where it is. Each byte that is looked at and each text that is cut
out lies in the window that is read, no cut splits a character, a bracket is closed only where one
is open, the cursor moves forward and not past the end, and windows within a window are smaller. -/
theorem acts_of_read (dictionary : Dictionary) (source : String) :
    (read dictionary source).result = (Template.read dictionary source).mapFault Halt.fault ∧
    (∀ reason, (read dictionary source).result.outcome = .error reason →
      reason ≠ .panic ∧ reason ≠ .stuck) ∧
    ∀ window act, (window, act) ∈ (read dictionary source).acts →
      IsWindow source window ∧ act.IsSafe source window := by
  have safe := @keeps_read dictionary source
  refine ⟨result_read dictionary source, ?_, ?_⟩
  · intro reason failed
    obtain ⟨fault, rfl⟩ := safe.halt reason failed
    exact ⟨Halt.noConfusion, Halt.noConfusion⟩
  · intro window act member
    obtain ⟨valid, own, _⟩ := safe.acts window act member
    exact ⟨valid, own⟩

/-- The window of a span begins behind a character of two bytes and ends behind one of three, and
a bracket that is never closed is a fault of the template. -/
theorem acts_of_wide_literals :
    let dictionary : Dictionary := { fragment := fun _ => some "(x)" }
    let source := "é<{a}→>"
    ((⟨0, 10⟩, .enter ⟨3, 9⟩) ∈ (read dictionary source).acts ∧
        (Act.enter ⟨3, 9⟩).IsSafe source ⟨0, 10⟩) ∧
      ((⟨3, 9⟩, .cutText 6 9) ∈ (read dictionary source).acts ∧
        (Act.cutText 6 9).IsSafe source ⟨3, 9⟩) ∧
      (read dictionary "→<\x7ba").result.outcome = .error (.fault (.unclosedOptional 3)) ∧
        Halt.fault (.unclosedOptional 3) ≠ .panic ∧
        Halt.fault (.unclosedOptional 3) ≠ .stuck := by
  intro dictionary source
  have done (act : ByteSpan × Act) (listed : (read dictionary source).acts.contains act = true) :
      act ∈ (read dictionary source).acts := List.contains_iff_mem.mp listed
  have entered := done (⟨0, 10⟩, .enter ⟨3, 9⟩) (by cbv)
  have cut := done (⟨3, 9⟩, .cutText 6 9) (by cbv)
  have failed : (read dictionary "→<\x7ba").result.outcome =
      .error (.fault (.unclosedOptional 3)) := by cbv
  obtain ⟨_, _, safe⟩ := acts_of_read dictionary source
  obtain ⟨_, ends, _⟩ := acts_of_read dictionary "→<\x7ba"
  exact ⟨⟨entered, (safe _ _ entered).2⟩, ⟨cut, (safe _ _ cut).2⟩, failed, ends _ failed⟩

end Cursor

end Stencil.Template
