import Mathlib
import Stencil.Proofs.Template.Joining
/-!
# Reading with a cursor

The same reading, on the bytes of the whole source: a cursor goes over the bytes, windows are
pairs of offsets, and text is cut out of the source where it is needed. All that is done to the
source is kept beside the result, so that it can be said where a reading has looked. A byte that
is not there, text that would split a character and a bracket too many stop the reading, and so
does a cursor that does not move.
-/
namespace Stencil.Template

/-- What is done to the source, or with an offset or a counter, while a window is read. -/
inductive Act where
  | look (offset : Nat)
  | cutText (start stop : Nat)
  | cutBytes (start stop : Nat)
  | closeBracket (depth : Nat)
  | advance (offset next : Nat)
  | enter (inside : ByteSpan)
deriving DecidableEq

/-- Why a reading ends without a template. The template is at fault, or something is asked for
that is not there, or the cursor would stay where it is for ever. -/
inductive Halt where
  | fault (fault : Fault)
  | panic
  | stuck
deriving DecidableEq

/-- A result beside all that is done on the way to it, each act with the window that is read. -/
structure Watched (α : Type) where
  acts : List (ByteSpan × Act)
  result : Logged Halt α

namespace Watched

variable {α β : Type}

/-- What is done before a failure is kept. -/
protected def bind (first : Watched α) (next : α → Watched β) : Watched β where
  acts :=
    match first.result.outcome with
    | .error _ => first.acts
    | .ok value => first.acts ++ (next value).acts
  result := first.result >>= fun value => (next value).result

instance : Monad Watched where
  pure value := ⟨[], pure value⟩
  bind := Watched.bind

def note (window : ByteSpan) (act : Act) : Watched Unit :=
  ⟨[(window, act)], pure ()⟩

def log (entry : Entry) : Watched Unit :=
  ⟨[], Logged.emit entry⟩

def halt (reason : Halt) : Watched α :=
  ⟨[], Logged.fail reason⟩

@[simp] theorem result_pure (value : α) : (pure value : Watched α).result = pure value := rfl

@[simp] theorem result_bind (first : Watched α) (next : α → Watched β) :
    (first >>= next).result = first.result >>= fun value => (next value).result := rfl

theorem acts_bind_of_error {first : Watched α} (next : α → Watched β) {reason : Halt}
    (failed : first.result.outcome = .error reason) : (first >>= next).acts = first.acts := by
  change (Watched.bind first next).acts = _
  simp only [Watched.bind, failed]

theorem acts_bind_of_ok {first : Watched α} (next : α → Watched β) {value : α}
    (found : first.result.outcome = .ok value) :
    (first >>= next).acts = first.acts ++ (next value).acts := by
  change (Watched.bind first next).acts = _
  simp only [Watched.bind, found]

@[simp] theorem result_note (window : ByteSpan) (act : Act) :
    (note window act).result = pure () := rfl

end Watched

namespace Cursor

open Watched

variable (dictionary : Dictionary) (source : String)

/-! ## Acts -/

def look (window : ByteSpan) (offset : Nat) : Watched UInt8 := do
  note window (.look offset)
  match source.toByteArray[offset]? with
  | some byte => pure byte
  | none => halt .panic

/-- The text between two offsets. -/
def cutText (window : ByteSpan) (start stop : Nat) : Watched String := do
  note window (.cutText start stop)
  if valid : start ≤ stop ∧ (String.Pos.Raw.mk start).IsValid source ∧
      (String.Pos.Raw.mk stop).IsValid source then
    pure (source.extract ⟨_, valid.2.1⟩ ⟨_, valid.2.2⟩)
  else halt .panic

/-- The bytes between two offsets, to be looked at one by one. Here any offset will do. -/
def cutBytes (window : ByteSpan) (start stop : Nat) : Watched Unit := do
  note window (.cutBytes start stop)
  if start ≤ stop ∧ stop ≤ source.utf8ByteSize then pure () else halt .panic

/-- One of the brackets that are open is closed. -/
def closeBracket (window : ByteSpan) (depth : Nat) : Watched Nat := do
  note window (.closeBracket depth)
  match depth with
  | 0 => halt .panic
  | left + 1 => pure left

/-! ## Segments -/

/-- The offset of the next `{` or `<`, or the end of the window. -/
def literalEnd (window : ByteSpan) (offset : Nat) : Watched Nat :=
  if offset < window.stop then do
    let byte ← look source window offset
    if continuesLiteral byte.toChar then literalEnd window (offset + 1) else pure offset
  else pure window.stop
termination_by window.stop - offset

/-- Literal text from `start` on, with the offset behind it. -/
def readLiteral (window : ByteSpan) (start : Nat) : Watched (Template × Nat) := do
  cutBytes source window (start + 1) window.stop
  let stop ← literalEnd source window (start + 1)
  let text ← cutText source window start stop
  pure (literal text nil, stop)

/-- The placeholder that opens at `start`, if the braces hold a name. The cursor is within them. -/
def readBraces (window : ByteSpan) (start offset : Nat) : Watched (Option (Template × Nat)) :=
  if offset < window.stop then do
    let byte ← look source window offset
    if byte.toChar = '}' then
      let name ← cutText source window (start + 1) offset
      if isName name.toList then
        if dictionary.contains name then
          log (.acceptedPlaceholder name)
          pure (some (placeholder name nil, offset + 1))
        else halt (.fault (.unknownPlaceholder name ⟨start, offset + 1⟩))
      else pure none
    else if continuesBraces byte.toChar then readBraces window start (offset + 1)
    else halt (.fault (.unclosedPlaceholder start))
  else halt (.fault (.unclosedPlaceholder start))
termination_by window.stop - offset

mutual

/-- The span that opens at `start`. The cursor looks for its end, and `depth` brackets are open in
front of it. -/
def readSpan (window : ByteSpan) (start offset depth : Nat) : Watched (Template × Nat) :=
  if offset < window.stop then do
    let byte ← look source window offset
    if byte.toChar = '<' then readSpan window start (offset + 1) (depth + 1)
    else if byte.toChar = '>' then
      let left ← closeBracket window depth
      if left = 0 then
        log (.foundOptional start offset)
        note window (.enter ⟨start + 1, offset⟩)
        let inside ← readSegments ⟨start + 1, offset⟩ (start + 1) nil
        pure (optional inside nil, offset + 1)
      else readSpan window start (offset + 1) left
    else readSpan window start (offset + 1) depth
  else halt (.fault (.unclosedOptional start))
termination_by (window.stop, window.stop - offset, 0)

/-- The segment at the cursor, with the offset behind it. -/
def readSegment (window : ByteSpan) (offset : Nat) : Watched (Template × Nat) := do
  let byte ← look source window offset
  if byte.toChar = '{' then
    match ← readBraces dictionary source window offset (offset + 1) with
    | some found => pure found
    | none => readLiteral source window offset
  else if byte.toChar = '<' then readSpan window offset offset 0
  else readLiteral source window offset
termination_by (window.stop, window.stop - offset, 1)

/-- The segments from the cursor up to the end of the window, behind those in front of it. -/
def readSegments (window : ByteSpan) (offset : Nat) (front : Template) : Watched Template :=
  if offset < window.stop then do
    let (segment, next) ← readSegment window offset
    note window (.advance offset next)
    if offset < next then readSegments window next (front.join segment) else halt .stuck
  else pure front
termination_by (window.stop, window.stop - offset, 2)

end

/-- Reads a window of the source from its start. -/
def readWindow (window : ByteSpan) : Watched Template :=
  readSegments dictionary source window window.start nil

/-- Reads the whole source. -/
def read : Watched Template := do
  log (.scanning source)
  readWindow dictionary source ⟨0, source.utf8ByteSize⟩

end Cursor

end Stencil.Template
