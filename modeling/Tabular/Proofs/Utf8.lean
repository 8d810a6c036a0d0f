/-
**How encoded text begins.**

The encoding of a string is cut into characters in one way only: no character begins with a byte
that continues another one, and the bytes of a character are never the beginning of a longer one.
What is needed of this here is that a byte order mark in front of some bytes is there because the
text in front begins with that character.

Main results:

* `Tabular.Utf8.isUTF8FirstByte_head_encode` — an encoded string begins with the first byte of a
  character;
* `Tabular.Utf8.mark_isPrefix_encode_iff` — **an encoded string begins with the mark exactly if its
  first character is U+FEFF**;
* `Tabular.Utf8.mark_isPrefix_encode_append` — the mark does not arise from a string and what
  follows it;
* `Tabular.Utf8.ofUInt8_mem_of_mem_encode` — an ASCII byte of an encoded string is one of its
  characters.
-/

import Tabular.Utf8

set_option autoImplicit false

namespace Tabular

namespace Utf8

/-- The character whose encoding is the byte order mark. -/
def markChar : Char := '\uFEFF'

theorem encode_eq_flatMap (s : String) : encode s = s.toList.flatMap String.utf8EncodeChar := by
  rw [encode, ← String.utf8Encode_toList, List.utf8Encode]
  simp

theorem encode_ofList_cons (c : Char) (cs : List Char) :
    encode (String.ofList (c :: cs)) = String.utf8EncodeChar c ++ encode (String.ofList cs) := by
  simp [encode_eq_flatMap]

theorem encode_eq_nil_iff {s : String} : encode s = [] ↔ s = "" :=
  ⟨fun h => encode_injective h, fun h => by rw [h, encode_empty]⟩

theorem isUTF8FirstByte_head_encode (s : String) : ∀ b ∈ (encode s).head?, b.IsUTF8FirstByte := by
  intro b hb
  rw [encode_eq_flatMap] at hb
  cases hs : s.toList with
  | nil => simp [hs] at hb
  | cons c cs =>
      obtain ⟨first, more, hc⟩ := List.exists_cons_of_ne_nil (String.utf8EncodeChar_ne_nil (c := c))
      have hfirst := UInt8.isUTF8FirstByte_getElem_zero_utf8EncodeChar (c := c)
      simp only [hc, List.getElem_cons_zero] at hfirst
      rw [hs, List.flatMap_cons, hc] at hb
      obtain rfl : first = b := by simpa using hb
      exact hfirst

theorem not_mark_isPrefix_cons {b : UInt8} (hb : b ≠ 0xEF) (bs : Bytes) :
    ¬ mark <+: b :: bs := by
  intro h
  exact hb (List.cons_prefix_cons.1 h).1.symm

theorem exists_encode_eq_mark_append {s : String} (h : s.toList.head? = some markChar) :
    ∃ tail, encode s = mark ++ encode tail := by
  obtain ⟨cs, hcs⟩ := List.head?_eq_some_iff.1 h
  refine ⟨String.ofList cs, ?_⟩
  rw [← String.ofList_toList (s := s), hcs, encode_ofList_cons]
  rfl

/-- **An encoded string begins with the mark exactly if its first character is U+FEFF.** -/
theorem mark_isPrefix_encode_iff (s : String) :
    mark <+: encode s ↔ s.toList.head? = some markChar := by
  constructor
  · rintro ⟨rest, hrest⟩
    have harray : [markChar].utf8Encode ++ rest.toByteArray = s.toList.utf8Encode := by
      have hmark : [markChar].utf8Encode = mark.toByteArray := by decide
      rw [hmark, String.utf8Encode_toList, ← toByteArray_encode, ← hrest, List.toByteArray_append]
    have hprefix : [markChar] <+: s.toList :=
      List.isPrefix_of_utf8Encode_append_eq_utf8Encode rest.toByteArray harray
    obtain ⟨cs, hcs⟩ := hprefix
    rw [← hcs]
    rfl
  · intro h
    obtain ⟨tail, htail⟩ := exists_encode_eq_mark_append h
    exact ⟨encode tail, htail.symm⟩

/-- The mark does not arise from a string and what follows it, unless the string is empty. -/
theorem mark_isPrefix_encode_append {s : String} {rest : Bytes} (h : mark <+: encode s ++ rest) :
    mark <+: encode s ∨ s = "" := by
  rcases Nat.lt_or_ge (encode s).length mark.length with hlt | hge
  · refine Or.inr ?_
    have hprefix : encode s <+: mark :=
      List.prefix_of_prefix_length_le (List.prefix_append ..) h (Nat.le_of_lt hlt)
    have htake : encode s = mark.take (encode s).length := List.prefix_iff_eq_take.1 hprefix
    -- one or two bytes of the mark are no whole character
    have hdecode : decode? (mark.take (encode s).length) = some s := decode?_eq_some_iff.2 htake
    generalize (encode s).length = n at hlt htake hdecode
    match n with
    | 0 => exact encode_eq_nil_iff.1 htake
    | 1 => cases hdecode
    | 2 => cases hdecode
    | n + 3 => exact absurd hlt (Nat.not_lt.2 (Nat.le_add_left ..))
  · exact Or.inl (List.prefix_of_prefix_length_le h (List.prefix_append ..) hge)

/-! ### ASCII -/

theorem utf8EncodeChar_of_le {c : Char} (hc : c.val.toNat ≤ 127) :
    String.utf8EncodeChar c = [UInt8.ofNat c.val.toNat] := by
  simp only [String.utf8EncodeChar, if_pos hc]

theorem le_toNat_of_mem_utf8EncodeChar {c : Char} (hc : 127 < c.val.toNat) {b : UInt8}
    (hb : b ∈ String.utf8EncodeChar c) : 128 ≤ b.toNat := by
  -- two, three or four bytes, each with its highest bit set
  simp only [String.utf8EncodeChar, if_neg (Nat.not_le.2 hc)] at hb
  split at hb
  · simp only [List.mem_cons, List.not_mem_nil, or_false] at hb
    rcases hb with rfl | rfl <;> simp <;> omega
  · split at hb
    · simp only [List.mem_cons, List.not_mem_nil, or_false] at hb
      rcases hb with rfl | rfl | rfl <;> simp <;> omega
    · simp only [List.mem_cons, List.not_mem_nil, or_false] at hb
      rcases hb with rfl | rfl | rfl | rfl <;> simp <;> omega

theorem utf8EncodeChar_ofUInt8 {b : UInt8} (hb : b < 0x80) :
    String.utf8EncodeChar (Char.ofUInt8 b) = [b] := by
  have hval : (Char.ofUInt8 b).val.toNat = b.toNat := UInt8.toNat_toUInt32 b
  have hlt : b.toNat < 128 := hb
  rw [utf8EncodeChar_of_le (by omega), hval, UInt8.ofNat_toNat]

/-- A byte that is a whole text is an ASCII byte. -/
theorem lt_of_encode_eq_singleton {s : String} {b : UInt8} (h : encode s = [b]) : b < 0x80 := by
  rw [encode_eq_flatMap] at h
  cases hs : s.toList with
  | nil => simp [hs] at h
  | cons c cs =>
      rw [hs, List.flatMap_cons, List.append_eq_singleton_iff] at h
      rcases h with ⟨hnil, -⟩ | ⟨hc, -⟩
      · exact absurd hnil String.utf8EncodeChar_ne_nil
      · have hsize : c.utf8Size = 1 := by
          rw [← String.length_utf8EncodeChar, hc]
          rfl
        have hle : c.val.toNat ≤ 127 := Char.utf8Size_eq_one_iff.1 hsize
        rw [utf8EncodeChar_of_le hle] at hc
        obtain rfl := List.singleton_inj.1 hc
        change (UInt8.ofNat c.val.toNat).toNat < 128
        rw [UInt8.toNat_ofNat_of_lt']
        · exact Nat.lt_succ_of_le hle
        · change c.val.toNat < 256
          omega

/-- **An ASCII byte of an encoded string is one of its characters.** -/
theorem ofUInt8_mem_of_mem_encode {s : String} {b : UInt8} (hb : b < 0x80) (h : b ∈ encode s) :
    Char.ofUInt8 b ∈ s.toList := by
  rw [encode_eq_flatMap, List.mem_flatMap] at h
  obtain ⟨c, hc, hbc⟩ := h
  have hlt : b.toNat < 128 := hb
  have hle : c.val.toNat ≤ 127 := by
    refine Nat.le_of_not_lt ?_
    intro hgt
    have hge := le_toNat_of_mem_utf8EncodeChar hgt hbc
    omega
  rw [utf8EncodeChar_of_le hle] at hbc
  have hchar : Char.ofUInt8 b = c := by
    obtain rfl := List.mem_singleton.1 hbc
    apply Char.ext
    apply UInt32.toNat.inj
    change (UInt8.ofNat c.val.toNat).toUInt32.toNat = c.val.toNat
    rw [UInt8.toNat_toUInt32]
    refine UInt8.toNat_ofNat_of_lt' ?_
    change c.val.toNat < 256
    omega
  rwa [hchar]

end Utf8

end Tabular
