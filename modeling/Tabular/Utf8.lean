/-
**Bytes and the text they encode.**

Files are byte sequences and cells are strings; this module is the border between the two.
A string is encoded as UTF-8 and a byte sequence is decoded only if it is UTF-8 throughout:
surrogates, overlong forms and code points beyond U+10FFFF have no place in it.  For a sequence
that cannot be decoded the length of its longest valid beginning says where it goes wrong.

Main definitions:

* `Tabular.Bytes` — byte sequences;
* `Tabular.Utf8.encode`, `Tabular.Utf8.decode?` — from a string to its bytes and back;
* `Tabular.Utf8.validLength` — the length of the longest beginning that is UTF-8;
* `Tabular.Utf8.dropMark` — a text without its byte order mark.

Main results:

* `Tabular.Utf8.decode?_encode` — an encoded string is decoded as itself;
* `Tabular.Utf8.decode?_eq_some_iff` — **a sequence is decoded only as the string that it
  encodes**.
-/

set_option autoImplicit false

namespace Tabular

/-- The content of a file, or a part of it. -/
abbrev Bytes := List UInt8

namespace Utf8

/-! ### Encoding and decoding -/

/-- The UTF-8 bytes of a string. -/
def encode (s : String) : Bytes := s.toByteArray.data.toList

/-- **The string that a byte sequence encodes**, if it is UTF-8 throughout. -/
def decode? (bs : Bytes) : Option String := String.fromUTF8? bs.toByteArray

theorem toByteArray_encode (s : String) : (encode s).toByteArray = s.toByteArray := by
  apply ByteArray.ext
  simp [encode]

theorem decode?_eq_some_iff {bs : Bytes} {s : String} : decode? bs = some s ↔ encode s = bs := by
  constructor
  · intro h
    simp only [decode?, String.fromUTF8?] at h
    split at h
    · injection h with h
      subst h
      simp [encode, String.fromUTF8]
    · cases h
  · rintro rfl
    have h : (encode s).toByteArray.IsValidUTF8 := by
      rw [toByteArray_encode]; exact s.isValidUTF8
    simp only [decode?, String.fromUTF8?, h, dite_true, Option.some.injEq]
    rw [← String.toByteArray_inj]
    exact toByteArray_encode s

@[simp] theorem decode?_encode (s : String) : decode? (encode s) = some s :=
  decode?_eq_some_iff.2 rfl

@[simp] theorem encode_empty : encode "" = [] := rfl

@[simp] theorem encode_append (s t : String) : encode (s ++ t) = encode s ++ encode t := by
  simp [encode]

theorem encode_injective {s t : String} (h : encode s = encode t) : s = t := by
  have h' := congrArg decode? h
  simpa using h'

/-! ### Where a sequence stops being UTF-8 -/

/-- The character whose encoding stands at the beginning of a byte sequence. -/
def head? (bs : Bytes) : Option Char := (bs.take 4).toByteArray.utf8DecodeChar? 0

/-- The bytes of the character at the beginning are there. -/
theorem utf8Size_le_of_head? {bs : Bytes} {c : Char} (h : head? bs = some c) :
    c.utf8Size ≤ bs.length := by
  have h' := ByteArray.le_size_of_utf8DecodeChar?_eq_some h
  simp at h'
  omega

/-- The number of bytes of the longest beginning of `bs` that is UTF-8. -/
def validLength (bs : Bytes) : Nat :=
  match _h : head? bs with
  | none => 0
  | some c => c.utf8Size + validLength (bs.drop c.utf8Size)
termination_by bs.length
decreasing_by
  have h₁ := utf8Size_le_of_head? _h
  have h₂ := c.utf8Size_pos
  simp only [List.length_drop]
  omega

/-! ### The byte order mark -/

/-- The encoding of U+FEFF, which some programs put in front of a text. -/
def mark : Bytes := [0xEF, 0xBB, 0xBF]

/-- A text without the byte order mark it may begin with. -/
def dropMark (bs : Bytes) : Bytes := if mark.isPrefixOf bs then bs.drop mark.length else bs

theorem dropMark_of_not_isPrefix {bs : Bytes} (h : ¬ mark <+: bs) : dropMark bs = bs := by
  rw [dropMark, if_neg (by simpa using h)]

@[simp] theorem dropMark_mark_append (bs : Bytes) : dropMark (mark ++ bs) = bs := by
  simp [dropMark]

end Utf8

end Tabular
