import Mathlib
import Stencil.Proofs.Template.Cursor.Basic
import Stencil.Proofs.Text.Standing
/-!
# What a cursor reads

A cursor reads of a window what is read of the text that stands there. Bytes of characters beyond
ASCII are passed by every search, so all of them stop at characters, and at the same ones.
-/
namespace Stencil

open Text (byteLength Stands)

namespace Logged

variable {ε ε' α β : Type} (f : ε → ε')

@[simp] theorem mapFault_pure (value : α) :
    (pure value : Logged ε α).mapFault f = pure value := rfl

@[simp] theorem mapFault_emit (entry : Entry) :
    (emit entry : Logged ε Unit).mapFault f = emit entry := rfl

theorem mapFault_bind (first : Logged ε α) (next : α → Logged ε β) :
    (first >>= next).mapFault f =
      first.mapFault f >>= fun value => (next value).mapFault f := by
  obtain ⟨log, outcome⟩ := first
  cases outcome <;> rfl

end Logged

namespace Template

/-! ## Segments in a row -/

theorem join_ne_nil {template : Template} (nonempty : template ≠ nil) (other : Template) :
    template.join other ≠ nil := by
  cases template with
  | nil => exact absurd rfl nonempty
  | literal text rest =>
    cases rest with
    | nil => cases other <;> exact Template.noConfusion
    | literal | placeholder | optional => exact Template.noConfusion
  | placeholder | optional => exact Template.noConfusion

theorem literal_join {text : String} {rest : Template} (nonempty : rest ≠ nil) (other : Template) :
    (literal text rest).join other = literal text (rest.join other) := by
  cases rest with
  | nil => exact absurd rfl nonempty
  | literal | placeholder | optional => rfl

@[simp] theorem join_nil (template : Template) : template.join nil = template := by
  induction template with
  | nil => rfl
  | literal text rest ih =>
    by_cases last : rest = nil
    · subst last
      rfl
    · rw [literal_join last, ih]
  | placeholder name rest ih => exact congrArg (placeholder name) ih
  | optional inside rest _ ih => exact congrArg (optional inside) ih

theorem join_assoc (first second third : Template) :
    (first.join second).join third = first.join (second.join third) := by
  induction first with
  | nil => rfl
  | literal text rest ih =>
    by_cases last : rest = nil
    · subst last
      exact join_prependLiteral text second third
    · rw [literal_join last, literal_join last, literal_join (join_ne_nil last second), ih]
  | placeholder name rest ih => exact congrArg (placeholder name) ih
  | optional inside rest _ ih => exact congrArg (optional inside) ih

namespace Cursor

variable {dictionary : Dictionary} {source : String} {window : ByteSpan} {start offset : Nat}
  {c : Char} {rest text inside after : List Char} {byte : UInt8}

/-! ## Acts -/

theorem result_look (found : source.toByteArray[offset]? = some byte) :
    (look source window offset).result = pure byte := by
  simp [look, found]

theorem result_look_bind {α : Type} (found : source.toByteArray[offset]? = some byte)
    (next : UInt8 → Watched α) :
    (look source window offset >>= next).result = (next byte).result := by
  rw [Watched.result_bind, result_look found, pure_bind]

theorem result_cutText {stop : Nat} (stands : Stands source text start stop) :
    (cutText source window start stop).result = pure (String.ofList text) := by
  have length := stands.length
  have valid : start ≤ stop ∧ (String.Pos.Raw.mk start).IsValid source ∧
      (String.Pos.Raw.mk stop).IsValid source :=
    ⟨by omega, stands.isValid_start, stands.isValid_stop⟩
  simp [cutText, valid, stands.extract_eq]

theorem result_cutBytes {stop : Nat} (ordered : start ≤ stop)
    (within : stop ≤ source.utf8ByteSize) :
    (cutBytes source window start stop).result = pure () := by
  simp [cutBytes, ordered, within]

/-! ## Literal text -/

private theorem ne_of_beyond {other mark : Char} (beyond : 128 ≤ other.toNat)
    (ascii : mark.toNat < 128) : other ≠ mark := by
  rintro rfl
  omega

theorem continuesLiteral_of_beyond (other : Char) (beyond : 128 ≤ other.toNat) :
    continuesLiteral other = true := by
  simp [continuesLiteral, @ne_of_beyond _ '{' beyond, @ne_of_beyond _ '<' beyond]

theorem result_literalEnd_step (within : offset < window.stop)
    (found : source.toByteArray[offset]? = some byte) :
    (literalEnd source window offset).result =
      if continuesLiteral byte.toChar then (literalEnd source window (offset + 1)).result
      else pure offset := by
  rw [literalEnd, if_pos within, result_look_bind found]
  split <;> rfl

theorem result_literalEnd (stands : Stands source text offset window.stop) :
    (literalEnd source window offset).result =
      pure (offset + byteLength (text.takeWhile continuesLiteral)) := by
  induction text generalizing offset with
  | nil =>
    rw [stands.start_eq, literalEnd, if_neg (Nat.lt_irrefl _)]
    rfl
  | cons c rest ih =>
    by_cases passed : continuesLiteral c = true
    · have next := stands.walk_char (fun offset => (literalEnd source window offset).result)
        continuesLiteral_of_beyond (fun offset byte within found passed => by
          rw [result_literalEnd_step within found, if_pos passed]) passed
      rw [List.takeWhile_cons_of_pos passed, Text.byteLength_cons, ← Nat.add_assoc]
      exact next.trans (ih stands.tail)
    · obtain ⟨byte, found, same, -⟩ := stands.first_byte
      rw [← same _ continuesLiteral_of_beyond] at passed
      rw [result_literalEnd_step stands.start_lt found, if_neg passed,
        List.takeWhile_cons_of_neg (by rwa [← same _ continuesLiteral_of_beyond])]
      rfl

/-- The first character of a literal may be any, and the search for its end begins at the second
byte, which may be within that character. -/
theorem result_readLiteral (stands : Stands source (c :: rest) start window.stop) :
    (readLiteral source window start).result =
      pure (literal (String.ofList (c :: rest.takeWhile continuesLiteral)) nil,
        start + byteLength (c :: rest.takeWhile continuesLiteral)) := by
  have inner := stands.walk_inner (fun offset => (literalEnd source window offset).result)
    fun offset byte within found high => by
      rw [result_literalEnd_step within found,
        if_pos (continuesLiteral_of_beyond _ (by rwa [Text.toNat_toChar]))]
  have whole : c :: rest =
      (c :: rest.takeWhile continuesLiteral) ++ rest.dropWhile continuesLiteral := by
    rw [List.cons_append, List.takeWhile_append_dropWhile]
  have stands' := stands
  rw [whole] at stands'
  rw [readLiteral, Watched.result_bind,
    result_cutBytes stands.start_lt stands.isValid_stop.le_utf8ByteSize, pure_bind,
    Watched.result_bind, inner.trans (result_literalEnd stands.tail), pure_bind, Nat.add_assoc,
    ← Text.byteLength_cons, Watched.result_bind, result_cutText stands'.left]
  rfl

/-! ## Braces -/

theorem continuesBraces_of_beyond (other : Char) (beyond : 128 ≤ other.toNat) :
    continuesBraces other = true := by
  simp [continuesBraces, @ne_of_beyond _ '{' beyond, @ne_of_beyond _ '}' beyond,
    @ne_of_beyond _ '<' beyond, @ne_of_beyond _ '>' beyond]

theorem result_readBraces_run (stands : Stands source text offset window.stop) :
    (readBraces dictionary source window start offset).result =
      (readBraces dictionary source window start
        (offset + byteLength (text.takeWhile continuesBraces))).result := by
  refine stands.walk_takeWhile (fun offset =>
    (readBraces dictionary source window start offset).result) continuesBraces_of_beyond
    fun offset byte within found passed => ?_
  have other : byte.toChar ≠ '}' := by
    intro same
    simp [same, continuesBraces] at passed
  rw [readBraces, if_pos within, result_look_bind found, if_neg other, if_pos passed]

/-- Braces that are closed hold a known name, an unknown one or none. -/
theorem result_readBraces_of_closed (stands : Stands source rest (start + 1) window.stop)
    (held : rest.takeWhile continuesBraces = text)
    (closed : rest.dropWhile continuesBraces = '}' :: after) :
    (readBraces dictionary source window start (start + 1)).result =
      if isName text then
        if dictionary.contains (String.ofList text) then
          Logged.emit (.acceptedPlaceholder (String.ofList text)) >>= fun _ =>
            pure (some (placeholder (String.ofList text) nil, start + byteLength text + 2))
        else Logged.fail (.fault (.unknownPlaceholder (String.ofList text)
          ⟨start, start + byteLength text + 2⟩))
      else pure none := by
  have closing := stands.dropWhile continuesBraces
  have parts := List.takeWhile_append_dropWhile (p := continuesBraces) (l := rest)
  have stands' := stands
  rw [← parts, held] at stands'
  rw [closed, held] at closing
  obtain ⟨byte, found, -, marks⟩ := closing.first_byte
  have behind : start + 1 + byteLength text + 1 = start + byteLength text + 2 := by omega
  rw [result_readBraces_run stands, held, readBraces, if_pos closing.start_lt,
    result_look_bind found, if_pos ((marks '}' (by decide)).mpr rfl),
    Watched.result_bind, result_cutText stands'.left, pure_bind, String.toList_ofList, behind]
  split
  · split <;> rfl
  · rfl

theorem result_readBraces_of_open (stands : Stands source rest (start + 1) window.stop)
    (stops : ∀ after, rest.dropWhile continuesBraces ≠ '}' :: after) :
    (readBraces dictionary source window start (start + 1)).result =
      Logged.fail (.fault (.unclosedPlaceholder start)) := by
  have remaining := stands.dropWhile continuesBraces
  have head := List.head?_dropWhile_not continuesBraces rest
  rw [result_readBraces_run stands]
  cases behind : rest.dropWhile continuesBraces with
  | nil =>
    rw [behind] at remaining
    rw [remaining.start_eq, readBraces, if_neg (Nat.lt_irrefl _)]
    rfl
  | cons d after =>
    rw [behind] at remaining head
    obtain ⟨byte, found, same, marks⟩ := remaining.first_byte
    have other : byte.toChar ≠ '}' := fun closes =>
      stops after (by rw [behind, (marks '}' (by decide)).mp closes])
    have halts : ¬ continuesBraces byte.toChar = true := by
      rw [same _ continuesBraces_of_beyond]
      exact Bool.eq_false_iff.mp head
    rw [readBraces, if_pos remaining.start_lt, result_look_bind found, if_neg other, if_neg halts]
    rfl

/-! ## Spans -/

/-- A span from the bracket at `start` to the one at `close`. -/
def spanEnd (dictionary : Dictionary) (source : String) (start close : Nat) :
    Logged Halt (Template × Nat) :=
  Logged.emit (.foundOptional start close) >>= fun _ =>
    (readSegments dictionary source ⟨start + 1, close⟩ (start + 1) nil).result >>= fun within =>
      pure (optional within nil, close + 1)

theorem result_readSpan_step (within : offset < window.stop)
    (found : source.toByteArray[offset]? = some byte) (depth : Nat) :
    (readSpan dictionary source window start offset (depth + 1)).result =
      if byte.toChar = '<' then
        (readSpan dictionary source window start (offset + 1) (depth + 2)).result
      else if byte.toChar = '>' then
        if depth = 0 then spanEnd dictionary source start offset
        else (readSpan dictionary source window start (offset + 1) depth).result
      else (readSpan dictionary source window start (offset + 1) (depth + 1)).result := by
  rw [readSpan, if_pos within, result_look_bind found]
  split
  · rfl
  · split
    · change (if depth = 0 then _ else _ : Watched (Template × Nat)).result = _
      split <;> rfl
    · rfl

/-- The search for the end of a span passes all but the brackets. -/
def continuesSpan (c : Char) : Bool :=
  c != '<' && c != '>'

theorem continuesSpan_iff : continuesSpan c = true ↔ c ≠ '<' ∧ c ≠ '>' := by
  simp [continuesSpan]

theorem continuesSpan_of_beyond (other : Char) (beyond : 128 ≤ other.toNat) :
    continuesSpan other = true :=
  continuesSpan_iff.mpr ⟨ne_of_beyond beyond (by decide), ne_of_beyond beyond (by decide)⟩

/-- The search for the end of a span counts the brackets that are open, its own among them. -/
theorem result_readSpan (stands : Stands source text offset window.stop) (depth : Nat) :
    (readSpan dictionary source window start offset (depth + 1)).result =
      (splitAtClose depth text).elim (Logged.fail (.fault (.unclosedOptional start)))
        fun found => spanEnd dictionary source start (offset + byteLength found.1) := by
  fun_induction splitAtClose depth text generalizing offset with
  | case1 depth =>
    rw [stands.start_eq, readSpan, if_neg (Nat.lt_irrefl _)]
    rfl
  | case2 depth rest ih =>
    obtain ⟨byte, found, -, marks⟩ := stands.first_byte
    have opens := (marks '<' (by decide)).mpr rfl
    have behind : Stands source rest (offset + 1) window.stop := stands.tail
    rw [result_readSpan_step stands.start_lt found, if_pos opens, ih behind]
    cases splitAtClose (depth + 1) rest <;> simp [Nat.add_assoc]
  | case3 rest =>
    obtain ⟨byte, found, -, marks⟩ := stands.first_byte
    have closes := (marks '>' (by decide)).mpr rfl
    rw [result_readSpan_step stands.start_lt found, if_neg (by rw [closes]; decide),
      if_pos closes, if_pos rfl]
    rfl
  | case4 depth rest ih =>
    obtain ⟨byte, found, -, marks⟩ := stands.first_byte
    have closes := (marks '>' (by decide)).mpr rfl
    have behind : Stands source rest (offset + 1) window.stop := stands.tail
    rw [result_readSpan_step stands.start_lt found, if_neg (by rw [closes]; decide),
      if_pos closes, if_neg (Nat.succ_ne_zero depth), ih behind]
    cases splitAtClose depth rest <;> simp [Nat.add_assoc]
  | case5 depth c rest opens closes closes' ih =>
    have other : c ≠ '>' := by
      cases depth with
      | zero => exact closes rfl
      | succ depth => exact closes' depth rfl
    have next := stands.walk_char
      (fun offset => (readSpan dictionary source window start offset (depth + 1)).result)
      continuesSpan_of_beyond
      (fun offset byte within found passed => by
        obtain ⟨opens, closes⟩ := continuesSpan_iff.mp passed
        rw [result_readSpan_step within found, if_neg opens, if_neg closes])
      (continuesSpan_iff.mpr ⟨opens, other⟩)
    refine next.trans ((ih stands.tail).trans ?_)
    cases splitAtClose depth rest <;> simp [Nat.add_assoc]

/-- A segment that begins with a bracket is a span up to the one that closes it. -/
theorem result_readSegment_of_angle (stands : Stands source ('<' :: rest) offset window.stop) :
    (readSegment dictionary source window offset).result =
      (splitAtClose 0 rest).elim (Logged.fail (.fault (.unclosedOptional offset)))
        fun found => spanEnd dictionary source offset (offset + 1 + byteLength found.1) := by
  obtain ⟨byte, found, -, marks⟩ := stands.first_byte
  have opens := (marks '<' (by decide)).mpr rfl
  have behind : Stands source rest (offset + 1) window.stop := stands.tail
  rw [readSegment, result_look_bind found, if_neg (by rw [opens]; decide), if_pos opens, readSpan,
    if_pos stands.start_lt, result_look_bind found, if_pos opens, result_readSpan behind 0]

/-! ## Windows -/

section Cuts

variable (stands : Stands source (c :: rest) offset window.stop)

include stands

theorem result_readSegment_of_literal (cut : Cut.first c rest = .literal text after) :
    (readSegment dictionary source window offset).result =
      pure (literal (String.ofList text) nil, offset + byteLength text) := by
  obtain ⟨byte, found, -, marks⟩ := stands.first_byte
  have own := result_readLiteral stands
  rw [readSegment, result_look_bind found]
  cases Cut.first_eq_iff.mp cut with
  | unnamed brace held closed other =>
    subst brace
    have behind : Stands source rest (offset + 1) window.stop := stands.tail
    rw [if_pos ((marks '{' (by decide)).mpr rfl), Watched.result_bind,
      result_readBraces_of_closed behind held closed, other, if_neg Bool.false_ne_true, pure_bind]
    exact own
  | plain brace angle =>
    rw [if_neg (mt (marks '{' (by decide)).mp brace), if_neg (mt (marks '<' (by decide)).mp angle)]
    exact own

theorem result_readSegment_of_placeholder (cut : Cut.first c rest = .placeholder text after) :
    (readSegment dictionary source window offset).result =
      if dictionary.contains (String.ofList text) then
        Logged.emit (.acceptedPlaceholder (String.ofList text)) >>= fun _ =>
          pure (placeholder (String.ofList text) nil, offset + byteLength text + 2)
      else Logged.fail (.fault (.unknownPlaceholder (String.ofList text)
        ⟨offset, offset + byteLength text + 2⟩)) := by
  obtain ⟨byte, found, -, marks⟩ := stands.first_byte
  rw [readSegment, result_look_bind found]
  cases Cut.first_eq_iff.mp cut with
  | named brace held closed valid =>
    subst brace
    have behind : Stands source rest (offset + 1) window.stop := stands.tail
    rw [if_pos ((marks '{' (by decide)).mpr rfl), Watched.result_bind,
      result_readBraces_of_closed behind held closed, if_pos valid]
    split <;> rfl

theorem result_readSegment_of_optional (cut : Cut.first c rest = .optional inside after) :
    (readSegment dictionary source window offset).result =
      spanEnd dictionary source offset (offset + 1 + byteLength inside) := by
  cases Cut.first_eq_iff.mp cut with
  | spanned angle closed =>
    subst angle
    rw [result_readSegment_of_angle stands, closed]
    rfl

theorem result_readSegment_of_unclosed {kind : FaultKind}
    (cut : Cut.first c rest = .unclosed kind) :
    (readSegment dictionary source window offset).result =
      Logged.fail (.fault (.unclosed kind offset)) := by
  cases Cut.first_eq_iff.mp cut with
  | cutShort brace stops =>
    subst brace
    obtain ⟨byte, found, -, marks⟩ := stands.first_byte
    have behind : Stands source rest (offset + 1) window.stop := stands.tail
    rw [readSegment, result_look_bind found, if_pos ((marks '{' (by decide)).mpr rfl),
      Watched.result_bind, result_readBraces_of_open behind stops]
    rfl
  | unspanned angle none =>
    subst angle
    rw [result_readSegment_of_angle stands, none]
    rfl

end Cuts

theorem result_readSegments_step (within : offset < window.stop) (front : Template) :
    (readSegments dictionary source window offset front).result =
      (readSegment dictionary source window offset).result >>= fun found =>
        if offset < found.2 then
          (readSegments dictionary source window found.2 (front.join found.1)).result
        else Logged.fail .stuck := by
  rw [readSegments, if_pos within, Watched.result_bind]
  congr 1
  funext found
  obtain ⟨segment, next⟩ := found
  change (if offset < next then _ else _ : Watched Template).result = _
  split <;> rfl

/-- The cursor reads of a window what is read of the text in it, behind what is read already. -/
theorem result_readSegments (stands : Stands source text offset window.stop) (front : Template) :
    (readSegments dictionary source window offset front).result =
      (Template.readWindow dictionary offset text >>= fun following =>
        pure (front.join following)).mapFault Halt.fault := by
  induction offset, text using readWindow.induct dictionary generalizing window front with
  | case1 offset =>
    rw [stands.start_eq, readSegments, if_neg (Nat.lt_irrefl _), readWindow_nil, pure_bind,
      join_nil]
    rfl
  | case2 offset c rest text after cut ih =>
    obtain ⟨whole, nonempty⟩ := Cut.first_eq_literal cut
    rw [result_readSegments_step stands.start_lt, result_readSegment_of_literal stands cut,
      pure_bind, readWindow_of_literal cut, bind_assoc]
    rw [whole] at stands
    rw [if_pos (stands.left.start_lt_of_ne_nil nonempty), ih stands.right]
    simp only [pure_bind, join_assoc]
    rfl
  | case3 offset c rest name after cut stop known =>
    rename_i ih
    rw [result_readSegments_step stands.start_lt, result_readSegment_of_placeholder stands cut,
      readWindow_of_placeholder cut, if_pos known, if_pos known]
    rw [(Cut.first_eq_placeholder cut).1] at stands
    have stop_eq : offset + byteLength ('{' :: name) + '}'.utf8Size = stop := by
      simp only [Text.byteLength_cons, Text.utf8Size_delimiters, stop]
      omega
    have behind : Stands source after stop window.stop := stop_eq ▸ stands.right.tail
    simp only [bind_assoc, pure_bind]
    rw [if_pos (by omega), ih behind]
    simp only [join_assoc, Logged.mapFault_bind, Logged.mapFault_emit]
    rfl
  | case4 offset c rest name after cut unknown =>
    rw [result_readSegments_step stands.start_lt, result_readSegment_of_placeholder stands cut,
      readWindow_of_placeholder cut, if_neg unknown, if_neg unknown]
    rfl
  | case5 offset c rest inside after cut close ihInside =>
    rename_i ihRest
    rw [result_readSegments_step stands.start_lt, result_readSegment_of_optional stands cut,
      readWindow_of_optional cut]
    rw [Cut.first_eq_optional cut] at stands
    have close_eq : offset + byteLength ('<' :: inside) = close := by
      simp only [Text.byteLength_cons, Text.utf8Size_delimiters, close]
      omega
    have within : Stands source inside (offset + 1) close := close_eq ▸ stands.left.tail
    have behind : Stands source after (close + 1) window.stop := close_eq ▸ stands.right.tail
    have forward : offset < close + 1 := by omega
    have own : offset + 1 + byteLength inside = close := rfl
    rw [spanEnd, own, @ihInside ⟨offset + 1, close⟩ within nil]
    simp only [bind_assoc, pure_bind, if_pos forward, ihRest behind, join_assoc,
      Logged.mapFault_bind, Logged.mapFault_emit, Logged.mapFault_pure]
    rfl
  | case6 offset c rest kind cut =>
    rw [result_readSegments_step stands.start_lt, result_readSegment_of_unclosed stands cut,
      readWindow_of_unclosed cut]
    rfl

theorem result_readWindow (stands : Stands source text window.start window.stop) :
    (readWindow dictionary source window).result =
      (Template.readWindow dictionary window.start text).mapFault Halt.fault := by
  rw [readWindow, result_readSegments stands]
  exact congrArg (Logged.mapFault Halt.fault) (bind_pure _)

theorem result_read (dictionary : Dictionary) (source : String) :
    (read dictionary source).result = (Template.read dictionary source).mapFault Halt.fault := by
  have window := @result_readWindow dictionary _ ⟨0, source.utf8ByteSize⟩ _ (Stands.whole source)
  rw [read, Watched.result_bind, Template.read, Logged.mapFault_bind]
  exact congrArg (fun reading => Logged.emit (.scanning source) >>= fun _ => reading) window

end Cursor

end Template

end Stencil
