import PixelBuffer.FourCC
import PixelBuffer.Proofs.Text.Characters

/-!
# The text of a format identifies it

A byte without a graphic character is shown by four characters, and these can also be four graphic
bytes, because a backslash is shown as itself. What a graphic byte shows can therefore be the
beginning of an escape, but then the three bytes after it show the rest of the escape
(`rest_of_escape`). A format has no byte beyond these four, while the other format still has three
to show, so the texts differ (`escaped_ne_graphic`). `FourCC.identified_by_text` states that text
and code each identify a format. With a fifth byte the text would not.
-/

namespace PixelBuffer

namespace FourCC

/-! ## One byte -/

/-- A graphic byte is shown as itself. -/
theorem byteChars_of_graphic {byte : UInt8} (h : isGraphic byte = true) :
    byteChars byte = [Char.ofNat byte.toNat] :=
  if_pos h

/-- Any other byte is shown as an escape. -/
theorem byteChars_of_not_graphic {byte : UInt8} (h : ¬ isGraphic byte = true) :
    byteChars byte =
      ['\\', 'x', Nat.digitChar (byte.toNat / 16), Nat.digitChar (byte.toNat % 16)] :=
  if_neg h

/-- Bytes with the same character are the same. -/
theorem eq_of_char_eq {byte other : UInt8}
    (h : Char.ofNat byte.toNat = Char.ofNat other.toNat) : byte = other := by
  have hbyte := byte.toNat_lt
  have hother := other.toNat_lt
  have hnumbers := congrArg Char.toNat h
  rw [Text.toNat_ofNat (by omega), Text.toNat_ofNat (by omega)] at hnumbers
  exact UInt8.toNat_inj.mp hnumbers

/-- Bytes with the same two digits are the same. -/
theorem eq_of_digits_eq {byte other : UInt8}
    (hhigh : Nat.digitChar (byte.toNat / 16) = Nat.digitChar (other.toNat / 16))
    (hlow : Nat.digitChar (byte.toNat % 16) = Nat.digitChar (other.toNat % 16)) :
    byte = other := by
  have hbyte := byte.toNat_lt
  have hother := other.toNat_lt
  have hquotient := Text.eq_of_digitChar_eq (by omega) (by omega) hhigh
  have hremainder := Text.eq_of_digitChar_eq (by omega) (by omega) hlow
  rw [← UInt8.toNat_inj]
  omega

/-! ## Bytes one after another -/

/-- Every byte shows at least one character. -/
theorem length_le_length_flatMap (bytes : List UInt8) :
    bytes.length ≤ (bytes.flatMap byteChars).length := by
  induction bytes with
  | nil => exact Nat.le_refl _
  | cons byte rest ih =>
      have hone : 1 ≤ (byteChars byte).length := by
        unfold byteChars
        split <;> simp
      rw [List.flatMap_cons, List.length_append, List.length_cons]
      omega

/-- A character that does not begin an escape shows a byte of its own. -/
theorem rest_of_char {bytes : List UInt8} {c : Char} {chars : List Char} (hc : c ≠ '\\')
    (h : bytes.flatMap byteChars = c :: chars) :
    ∃ byte rest, bytes = byte :: rest ∧ rest.flatMap byteChars = chars := by
  cases bytes with
  | nil => cases h
  | cons byte rest =>
      rw [List.flatMap_cons] at h
      by_cases hgraphic : isGraphic byte = true
      · rw [byteChars_of_graphic hgraphic, List.singleton_append, List.cons.injEq] at h
        exact ⟨byte, rest, rfl, h.2⟩
      · rw [byteChars_of_not_graphic hgraphic, List.cons_append, List.cons.injEq] at h
        exact absurd h.1.symm hc

/-- The characters of an escape after its backslash show three bytes. -/
theorem rest_of_escape {bytes : List UInt8} {high low : Nat} {chars : List Char}
    (h : bytes.flatMap byteChars = 'x' :: Nat.digitChar high :: Nat.digitChar low :: chars) :
    ∃ rest : List UInt8, bytes.length = rest.length + 3 ∧ rest.flatMap byteChars = chars := by
  obtain ⟨_, afterMark, rfl, hmark⟩ := rest_of_char (by decide) h
  obtain ⟨_, afterHigh, rfl, hhigh⟩ :=
    rest_of_char (Nat.digitChar_ne '\\' (by decide)) hmark
  obtain ⟨_, afterLow, rfl, hlow⟩ := rest_of_char (Nat.digitChar_ne '\\' (by decide)) hhigh
  exact ⟨afterLow, rfl, hlow⟩

/-- Of at most four bytes, those that begin with an escaped one and those that begin with a graphic
one differ in their characters. -/
theorem escaped_ne_graphic {byte other : UInt8} {rest others : List UInt8}
    (hescaped : ¬ isGraphic byte = true) (hgraphic : isGraphic other = true)
    (hlength : rest.length = others.length) (hfew : rest.length ≤ 3) :
    (byte :: rest).flatMap byteChars ≠ (other :: others).flatMap byteChars := by
  intro h
  rw [List.flatMap_cons, List.flatMap_cons, byteChars_of_not_graphic hescaped,
    byteChars_of_graphic hgraphic, List.singleton_append, List.cons_append, List.cons.injEq] at h
  obtain ⟨last, hlast, hchars⟩ := rest_of_escape h.2.symm
  -- the other bytes are used up by the escape, the bytes after the escape are not
  have hempty : last = [] := List.eq_nil_of_length_eq_zero (by omega)
  have hshown := length_le_length_flatMap rest
  rw [← show last.flatMap byteChars = rest.flatMap byteChars from hchars, hempty,
    List.flatMap_nil, List.length_nil] at hshown
  omega

/-- At most four bytes are identified by their number and their characters. -/
theorem eq_of_flatMap_eq {bytes others : List UInt8} (hlength : bytes.length = others.length)
    (hfew : bytes.length ≤ 4) (h : bytes.flatMap byteChars = others.flatMap byteChars) :
    bytes = others := by
  induction bytes generalizing others with
  | nil => exact (List.eq_nil_of_length_eq_zero hlength.symm).symm
  | cons byte rest ih =>
      cases others with
      | nil => cases hlength
      | cons other others =>
          have hrest : rest.length = others.length := Nat.succ.inj hlength
          have hthree : rest.length ≤ 3 := Nat.le_of_succ_le_succ hfew
          by_cases hbyte : isGraphic byte = true <;> by_cases hother : isGraphic other = true
          · rw [List.flatMap_cons, List.flatMap_cons, byteChars_of_graphic hbyte,
              byteChars_of_graphic hother, List.singleton_append, List.singleton_append,
              List.cons.injEq] at h
            rw [eq_of_char_eq h.1, ih hrest (by omega) h.2]
          · exact absurd h.symm (escaped_ne_graphic hother hbyte hrest.symm (by omega))
          · exact absurd h (escaped_ne_graphic hbyte hother hrest hthree)
          · rw [List.flatMap_cons, List.flatMap_cons, byteChars_of_not_graphic hbyte,
              byteChars_of_not_graphic hother] at h
            simp only [List.cons_append, List.nil_append, List.cons.injEq, true_and] at h
            obtain ⟨hhigh, hlow, htail⟩ := h
            rw [eq_of_digits_eq hhigh hlow, ih hrest (by omega) htail]

/-! ## Formats -/

/-- A format is its bytes. -/
theorem eq_of_bytes_eq {format other : FourCC} (h : format.bytes = other.bytes) :
    format = other := by
  obtain ⟨first, second, third, fourth⟩ := format
  obtain ⟨first', second', third', fourth'⟩ := other
  simpa [bytes] using h

/-- The text of a format identifies it, and so does its code: formats with the same text are the
same, and formats and codes stand for each other. -/
theorem identified_by_text :
    (∀ format other : FourCC, format.text = other.text → format = other) ∧
      (∀ format : FourCC, ofCode format.toCode = format) ∧
      ∀ code : UInt32, (ofCode code).toCode = code := by
  refine ⟨fun format other h => ?_, ofCode_toCode, toCode_ofCode⟩
  have hchars : format.chars = other.chars := String.ofList_injective h
  exact eq_of_bytes_eq (eq_of_flatMap_eq rfl (Nat.le_refl 4) hchars)

/-- Five bytes are not identified: an escaped byte before four that spell an escape shows what four
that spell an escape show before an escaped byte. -/
example : [0x00, 0x5C, 0x78, 0x30, 0x31].flatMap byteChars =
    [0x5C, 0x78, 0x30, 0x30, 0x01].flatMap byteChars := by
  decide

end FourCC

end PixelBuffer
