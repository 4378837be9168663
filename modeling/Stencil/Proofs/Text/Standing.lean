import Mathlib
import Stencil.Proofs.Template.Joining
/-!
# Where text stands in a source

The bytes of a source from one offset up to another hold a text if neither offset splits a
character. The bytes of an ASCII character are known from all other bytes, so a walk over the
bytes that looks for such characters passes whole characters at a time.
-/
namespace Stencil.Text

open Template (utf8ByteSize_eq)

variable {source : String} {start stop : Nat}

/-- An offset splits no character exactly if the text in front of it is that long. -/
theorem isValid_iff {offset : Nat} : (String.Pos.Raw.mk offset).IsValid source ↔
    ∃ before after, source.toList = before ++ after ∧ byteLength before = offset := by
  rw [String.Pos.Raw.isValid_iff_exists_append]
  constructor
  · rintro ⟨before, after, rfl, front⟩
    refine ⟨before.toList, after.toList, String.toList_append, ?_⟩
    rw [← utf8ByteSize_eq]
    exact (congrArg String.Pos.Raw.byteIdx front).symm
  · rintro ⟨before, after, split, rfl⟩
    refine ⟨String.ofList before, String.ofList after, ?_, ?_⟩
    · rw [← String.ofList_append, ← split, String.ofList_toList]
    · apply String.Pos.Raw.ext
      rw [String.byteIdx_rawEndPos, utf8ByteSize_eq, String.toList_ofList]

/-- The bytes from `start` up to `stop` of the source hold the text. -/
def Stands (source : String) (text : List Char) (start stop : Nat) : Prop :=
  ∃ before after, source.toList = before ++ text ++ after ∧ byteLength before = start ∧
    start + byteLength text = stop

namespace Stands

variable {first second text : List Char}

theorem whole (source : String) : Stands source source.toList 0 source.utf8ByteSize :=
  ⟨[], [], by simp, rfl, by rw [utf8ByteSize_eq, Nat.zero_add]⟩

theorem length (h : Stands source text start stop) : start + byteLength text = stop :=
  h.choose_spec.choose_spec.2.2

theorem start_eq (h : Stands source [] start stop) : start = stop := by
  rw [← h.length, byteLength_nil, Nat.add_zero]

theorem left (h : Stands source (first ++ second) start stop) :
    Stands source first start (start + byteLength first) := by
  obtain ⟨before, after, split, front, _⟩ := h
  exact ⟨before, second ++ after, by simp [split], front, rfl⟩

theorem right (h : Stands source (first ++ second) start stop) :
    Stands source second (start + byteLength first) stop := by
  obtain ⟨before, after, split, rfl, length⟩ := h
  refine ⟨before ++ first, after, by simp [split], byteLength_append before first, ?_⟩
  rw [← length, byteLength_append, Nat.add_assoc]

theorem start_lt {c : Char} (h : Stands source (c :: text) start stop) : start < stop := by
  have length := h.length
  have nonempty := c.utf8Size_pos
  rw [byteLength_cons] at length
  omega

theorem start_lt_of_ne_nil (h : Stands source text start stop) (nonempty : text ≠ []) :
    start < stop := by
  obtain ⟨c, rest, rfl⟩ := List.exists_cons_of_ne_nil nonempty
  exact h.start_lt

theorem tail {c : Char} (h : Stands source (c :: text) start stop) :
    Stands source text (start + c.utf8Size) stop :=
  @right source start stop [c] text h

theorem dropWhile (h : Stands source text start stop) (p : Char → Bool) :
    Stands source (text.dropWhile p) (start + byteLength (text.takeWhile p)) stop := by
  rw [← List.takeWhile_append_dropWhile (p := p) (l := text)] at h
  exact h.right

theorem isValid_start (h : Stands source text start stop) :
    (String.Pos.Raw.mk start).IsValid source := by
  obtain ⟨before, after, split, front, _⟩ := h
  exact isValid_iff.mpr ⟨before, text ++ after, by rw [split, List.append_assoc], front⟩

theorem isValid_stop (h : Stands source text start stop) :
    (String.Pos.Raw.mk stop).IsValid source := by
  obtain ⟨before, after, split, rfl, length⟩ := h
  exact isValid_iff.mpr ⟨before ++ text, after, split, by rw [← length, byteLength_append]⟩

/-- Between two offsets that split no character stands some text. -/
theorem of_isValid (ordered : start ≤ stop) (valid : (String.Pos.Raw.mk start).IsValid source)
    (valid' : (String.Pos.Raw.mk stop).IsValid source) : ∃ text, Stands source text start stop := by
  obtain ⟨before, after, split, rfl⟩ := isValid_iff.mp valid
  obtain ⟨before', after', split', rfl⟩ := isValid_iff.mp valid'
  rcases List.append_eq_append_iff.mp (split.symm.trans split') with
    ⟨text, rfl, -⟩ | ⟨text, rfl, -⟩
  · exact ⟨text, before, after', split', rfl, (byteLength_append before text).symm⟩
  · have empty : byteLength text = 0 := by
      rw [byteLength_append] at ordered
      omega
    exact ⟨[], before' ++ text, after, by simpa using split, rfl, by simp [empty]⟩

theorem size_utf8Encode (text : List Char) : text.utf8Encode.size = byteLength text := by
  rw [← String.toByteArray_ofList, String.size_toByteArray, utf8ByteSize_eq, String.toList_ofList]

/-- The bytes of a source are those of the text in front, of the text and of the text behind. -/
theorem toByteArray_eq {before after : List Char}
    (split : source.toList = before ++ text ++ after) :
    source.toByteArray = before.utf8Encode ++ (text.utf8Encode ++ after.utf8Encode) := by
  rw [← String.utf8Encode_toList, split, List.append_assoc, List.utf8Encode_append,
    List.utf8Encode_append]

/-- What is cut out of the source between two offsets is the text that stands there. -/
theorem extract_eq (h : Stands source text start stop)
    (valid : (String.Pos.Raw.mk start).IsValid source)
    (valid' : (String.Pos.Raw.mk stop).IsValid source) :
    source.extract ⟨⟨start⟩, valid⟩ ⟨⟨stop⟩, valid'⟩ = String.ofList text := by
  obtain ⟨before, after, split, rfl, rfl⟩ := h
  apply String.toByteArray_inj.mp
  have cut := ByteArray.extract_append_size_add' (a := before.utf8Encode)
    (b := text.utf8Encode ++ after.utf8Encode) (i := 0) (j := byteLength text)
    (size_utf8Encode before).symm
  rw [Nat.add_zero, ByteArray.extract_append_eq_left (size_utf8Encode text).symm] at cut
  rw [String.toByteArray_extract, String.toByteArray_ofList, toByteArray_eq split]
  exact cut

/-- The bytes of a character stand from its offset on. -/
theorem getElem?_byte {c : Char} (h : Stands source (c :: text) start stop) {place : Nat}
    (within : place < c.utf8Size) :
    source.toByteArray[start + place]? = (String.utf8EncodeChar c)[place]? := by
  obtain ⟨before, after, split, rfl, _⟩ := h
  have bytes := @toByteArray_eq source [c] before (text ++ after) (by simpa using split)
  have front := size_utf8Encode before
  have own : [c].utf8Encode.size = c.utf8Size := size_utf8Encode [c]
  have inside : place < (String.utf8EncodeChar c).length := by
    rwa [String.length_utf8EncodeChar]
  rw [bytes, getElem?_pos _ _ (by simp only [ByteArray.size_append, front, own]; omega),
    ByteArray.getElem_append_right (by omega), ByteArray.getElem_append_left (by omega),
    List.getElem?_eq_getElem inside]
  simp only [front, Nat.add_sub_cancel_left, List.utf8Encode_singleton, List.getElem_toByteArray]

end Stands

/-! ## The bytes of a character -/

private theorem and_eq_zero_of_lt : ∀ byte : BitVec 8, byte.toNat < 128 → byte &&& 0x80 = 0 := by
  decide

theorem isUTF8FirstByte_of_lt {byte : UInt8} (ascii : byte.toNat < 128) :
    byte.IsUTF8FirstByte := by
  left
  apply UInt8.toBitVec_inj.mp
  exact and_eq_zero_of_lt byte.toBitVec ascii

theorem utf8Size_eq_one_iff {c : Char} : c.utf8Size = 1 ↔ c.toNat < 128 := by
  rw [Char.utf8Size_eq_one_iff, UInt32.le_iff_toNat_le]
  exact Nat.lt_succ_iff.symm

/-- The first byte of a character beyond ASCII is none of an ASCII character. -/
private theorem le_first_byte {c : Char} (wide : 128 ≤ c.toNat) {byte : UInt8}
    (first : (String.utf8EncodeChar c)[0]? = some byte) : 128 ≤ byte.toNat := by
  have code : ¬ c.val.toNat ≤ 127 := Nat.not_le_of_lt wide
  rw [String.utf8EncodeChar, if_neg code] at first
  split at first
  · cases first
    simp only [UInt8.toNat_ofNat']
    omega
  · split at first <;>
    · cases first
      simp only [UInt8.toNat_ofNat']
      omega

/-- A byte of a character is the whole character, or both are beyond ASCII. -/
theorem byte_of_utf8EncodeChar {c : Char} {place : Nat} {byte : UInt8}
    (found : (String.utf8EncodeChar c)[place]? = some byte) :
    (byte.toChar = c ∧ c.utf8Size = 1) ∨ (128 ≤ byte.toNat ∧ 128 ≤ c.toNat) := by
  by_cases ascii : c.toNat < 128
  · left
    have single := utf8Size_eq_one_iff.mpr ascii
    rw [String.utf8EncodeChar_eq_singleton single] at found
    obtain rfl : c.val.toUInt8 = byte := by
      rw [List.getElem?_singleton] at found
      exact Option.some.inj (Option.ite_none_right_eq_some.mp found).2
    refine ⟨Char.ext (UInt32.toNat_inj.mp ?_), single⟩
    change c.val.toUInt8.toUInt32.toNat = c.val.toNat
    rw [UInt8.toNat_toUInt32, UInt32.toNat_toUInt8]
    exact Nat.mod_eq_of_lt (ascii.trans (by decide))
  · right
    have wide := Nat.le_of_not_lt ascii
    refine ⟨?_, wide⟩
    by_contra low
    obtain ⟨inside, rfl⟩ := List.getElem?_eq_some_iff.mp found
    have lead := isUTF8FirstByte_of_lt (Nat.lt_of_not_le low)
    obtain rfl := UInt8.isUTF8FirstByte_getElem_utf8EncodeChar.mp lead
    exact low (le_first_byte wide found)

theorem toNat_toChar (byte : UInt8) : byte.toChar.toNat = byte.toNat :=
  UInt8.toNat_toUInt32 byte

/-- An offset at an ASCII character splits none, nor does the one behind it. -/
theorem isValid_of_ascii {offset : Nat} {byte : UInt8}
    (found : source.toByteArray[offset]? = some byte) (ascii : byte.toNat < 128) :
    (String.Pos.Raw.mk offset).IsValid source ∧
      (String.Pos.Raw.mk (offset + 1)).IsValid source := by
  obtain ⟨inside, same⟩ := getElem?_eq_some_iff.mp found
  have valid : (String.Pos.Raw.mk offset).IsValid source := by
    refine String.Pos.Raw.isValid_iff_isUTF8FirstByte.mpr (.inr ⟨inside, ?_⟩)
    rw [String.getUTF8Byte_eq_getElem, same]
    exact isUTF8FirstByte_of_lt ascii
  refine ⟨valid, ?_⟩
  obtain ⟨text, stands⟩ :=
    Stands.of_isValid (Nat.le_of_lt inside) valid String.Pos.Raw.isValid_rawEndPos
  cases text with
  | nil => exact absurd stands.start_eq (Nat.ne_of_lt inside)
  | cons c text =>
    have own := stands.getElem?_byte c.utf8Size_pos
    rw [Nat.add_zero, found] at own
    rcases byte_of_utf8EncodeChar own.symm with ⟨-, single⟩ | ⟨wide, -⟩
    · rw [← single]
      exact stands.tail.isValid_start
    · omega

section Characters

variable {c : Char} {text : List Char}

/-- A byte within a character is the whole character, or both are beyond ASCII. -/
theorem Stands.exists_byte (stands : Stands source (c :: text) start stop) {place : Nat}
    (within : place < c.utf8Size) : ∃ byte, source.toByteArray[start + place]? = some byte ∧
      ((byte.toChar = c ∧ c.utf8Size = 1) ∨ (128 ≤ byte.toNat ∧ 128 ≤ c.toNat)) := by
  have inside : place < (String.utf8EncodeChar c).length := by rwa [String.length_utf8EncodeChar]
  have own := List.getElem?_eq_getElem inside
  exact ⟨_, (stands.getElem?_byte within).trans own, byte_of_utf8EncodeChar own⟩

/-- A test that all characters beyond ASCII pass can be made on the first byte of a character. -/
theorem Stands.first_byte (stands : Stands source (c :: text) start stop) :
    ∃ byte, source.toByteArray[start]? = some byte ∧
      (∀ p : Char → Bool, (∀ other : Char, 128 ≤ other.toNat → p other = true) →
        p byte.toChar = p c) ∧
      ∀ mark : Char, mark.toNat < 128 → (byte.toChar = mark ↔ c = mark) := by
  obtain ⟨byte, found, ⟨same, -⟩ | ⟨high, wide⟩⟩ := stands.exists_byte c.utf8Size_pos
  · exact ⟨byte, found, fun p _ => by rw [same], fun mark _ => by rw [same]⟩
  · rw [← toNat_toChar] at high
    refine ⟨byte, found, fun p beyond => by rw [beyond _ high, beyond _ wide], ?_⟩
    intro mark ascii
    constructor <;>
    · rintro rfl
      omega

end Characters

/-! ## Walks over bytes -/

section Walks

variable {α : Type} (walk : Nat → α) {c : Char} {text : List Char}

/-- A walk that passes every byte beyond ASCII gets from the second byte of a character to the
next character. -/
theorem Stands.walk_inner (stands : Stands source (c :: text) start stop)
    (passes : ∀ offset byte, offset < stop → source.toByteArray[offset]? = some byte →
      128 ≤ byte.toNat → walk offset = walk (offset + 1)) :
    walk (start + 1) = walk (start + c.utf8Size) := by
  have short := stands.length
  rw [byteLength_cons] at short
  have steps (left place : Nat) (last : place + left = c.utf8Size) (later : 1 ≤ place) :
      walk (start + place) = walk (start + c.utf8Size) := by
    induction left generalizing place with
    | zero => rw [← last, Nat.add_zero]
    | succ left ih =>
      obtain ⟨byte, found, ⟨-, single⟩ | ⟨high, -⟩⟩ :=
        @exists_byte _ _ _ _ _ stands place (by omega)
      · omega
      · rw [← ih (place + 1) (by omega) (by omega), ← Nat.add_assoc]
        exact passes _ byte (by omega) found high
  have nonempty := c.utf8Size_pos
  exact steps (c.utf8Size - 1) 1 (by omega) (Nat.le_refl 1)

/-- A walk that passes the bytes of some ASCII characters and every byte beyond ASCII passes such
characters and those beyond ASCII. -/
theorem Stands.walk_char (stands : Stands source (c :: text) start stop) {p : Char → Bool}
    (beyond : ∀ other : Char, 128 ≤ other.toNat → p other = true)
    (passes : ∀ offset byte, offset < stop → source.toByteArray[offset]? = some byte →
      p byte.toChar = true → walk offset = walk (offset + 1))
    (passed : p c = true) : walk start = walk (start + c.utf8Size) := by
  have short := stands.length
  have nonempty := c.utf8Size_pos
  rw [byteLength_cons] at short
  have wide {byte : UInt8} (high : 128 ≤ byte.toNat) : p byte.toChar = true :=
    beyond _ (by rwa [toNat_toChar])
  rw [← stands.walk_inner walk fun offset byte inside found high =>
    passes offset byte inside found (wide high)]
  obtain ⟨byte, found, ⟨same, -⟩ | ⟨high, -⟩⟩ := stands.exists_byte nonempty
  · exact passes start byte (by omega) found (by rwa [same])
  · exact passes start byte (by omega) found (wide high)

/-- Such a walk passes all characters up to the first that it does not pass. -/
theorem Stands.walk_takeWhile {p : Char → Bool}
    (beyond : ∀ other : Char, 128 ≤ other.toNat → p other = true)
    (passes : ∀ offset byte, offset < stop → source.toByteArray[offset]? = some byte →
      p byte.toChar = true → walk offset = walk (offset + 1))
    (stands : Stands source text start stop) :
    walk start = walk (start + byteLength (text.takeWhile p)) := by
  induction text generalizing start with
  | nil => rfl
  | cons c rest ih =>
    by_cases passed : p c = true
    · rw [stands.walk_char walk beyond passes passed, ih stands.tail,
        List.takeWhile_cons_of_pos passed, byteLength_cons, Nat.add_assoc]
    · rw [List.takeWhile_cons_of_neg passed, byteLength_nil, Nat.add_zero]

end Walks

end Stencil.Text
