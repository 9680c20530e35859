import Mathlib.Data.List.Basic

/-!
# Bytes as text

UTF-8 as Go's libraries read it: a byte that begins no character counts as U+FFFD, and
the reading goes on at the next byte.
-/

namespace MysqlRedshift.Misc.Utf8

/-- The bytes of a text. -/
def encode (s : String) : List UInt8 := s.toList.flatMap String.utf8EncodeChar

/-- The character at the beginning of the bytes, and how many bytes it takes. -/
def decodeRune (bs : List UInt8) : Char × Nat :=
  match bs.toByteArray.utf8DecodeChar? 0 with
  | some c => (c, c.utf8Size)
  | none => ('\ufffd', 1)

/-- The characters of at most `fuel` readings. -/
def decodeN : Nat → List UInt8 → List Char
  | 0, _ => []
  | _ + 1, [] => []
  | fuel + 1, b :: bs =>
    (decodeRune (b :: bs)).1 :: decodeN fuel ((b :: bs).drop (decodeRune (b :: bs)).2)

/-- The text that is read in the bytes. -/
def decode (bs : List UInt8) : String := String.ofList (decodeN bs.length bs)

/-- The bytes are those of some text. -/
def IsText (bs : List UInt8) : Prop := ∃ s, encode s = bs

theorem decodeRune_encode (c : Char) (rest : List UInt8) :
    decodeRune (String.utf8EncodeChar c ++ rest) = (c, c.utf8Size) := by
  have bytes : (String.utf8EncodeChar c ++ rest).toByteArray =
      (String.utf8EncodeChar c).toByteArray ++ rest.toByteArray := by
    rw [List.toByteArray_append]
  rw [decodeRune, bytes, ByteArray.utf8DecodeChar?_utf8EncodeChar_append]

/-- Every reading takes a character from the bytes of a text. -/
theorem decodeN_encode (cs : List Char) {fuel : Nat}
    (enough : (cs.flatMap String.utf8EncodeChar).length ≤ fuel) :
    decodeN fuel (cs.flatMap String.utf8EncodeChar) = cs := by
  induction cs generalizing fuel with
  | nil => cases fuel <;> rfl
  | cons c cs ih =>
    rw [List.flatMap_cons] at enough ⊢
    obtain ⟨b, bs, first⟩ := List.exists_cons_of_ne_nil (String.utf8EncodeChar_ne_nil (c := c))
    have reads := decodeRune_encode c (cs.flatMap String.utf8EncodeChar)
    have size : (String.utf8EncodeChar c).length = c.utf8Size := String.length_utf8EncodeChar c
    rw [List.length_append, size] at enough
    have positive := c.utf8Size_pos
    cases fuel with
    | zero => omega
    | succ fuel =>
      have step : decodeN (fuel + 1) (String.utf8EncodeChar c ++ cs.flatMap String.utf8EncodeChar) =
          (decodeRune (String.utf8EncodeChar c ++ cs.flatMap String.utf8EncodeChar)).1 ::
            decodeN fuel ((String.utf8EncodeChar c ++ cs.flatMap String.utf8EncodeChar).drop
              (decodeRune (String.utf8EncodeChar c ++ cs.flatMap String.utf8EncodeChar)).2) := by
        rw [first]
        rfl
      rw [step, reads, ← size, List.drop_left, ih (by omega)]

@[simp] theorem decode_encode (s : String) : decode (encode s) = s := by
  rw [decode, encode, decodeN_encode s.toList (Nat.le_refl _), String.ofList_toList]

theorem encode_decode_iff {bs : List UInt8} : encode (decode bs) = bs ↔ IsText bs := by
  constructor
  · intro same
    exact ⟨decode bs, same⟩
  · rintro ⟨s, rfl⟩
    rw [decode_encode]

end MysqlRedshift.Misc.Utf8
