/-
**Literals end by themselves.**

The reader of a literal does not know how long the value is.  It stops at the first single quote that
no other quote follows, so that a run of quotes inside a value must not run into the quote at the end,
and the cut at the limit must not leave half of a pair behind.  Neither happens, because a value is cut
before its quotes are doubled: behind the opening quote a literal is pairs of quotes and other
characters, and one quote that stands alone.

So a literal is found in front of any text that begins with no quote, and nothing but a literal is read
as one.  Two literals can then not differ by such a text alone.  A text that begins with a quote can
make a longer literal of a shorter one: two empty literals in a row are the literal for one quote.

Main results:

* `Tabular.Sql.readLiteral?_eq_some_iff` — what is read as a literal is a literal;
* `Tabular.Sql.literal_append_eq_iff` — texts that begin with literals agree if the literals do and
  what follows;
* `Tabular.Sql.readLiteral?_literal` — **literals end by themselves and lose only what is cut off**.
-/

import Tabular.Proofs.Sql.Decoder

set_option autoImplicit false

namespace Tabular

namespace Sql

/-! ### What is read as a literal -/

/-- **What is read as a literal is a literal**, and no quote follows it. -/
theorem readLiteral?_eq_some_iff {cs value rest : List Char} :
    readLiteral? cs = some (value, rest) ↔
      cs = quote :: (doubleQuotes value ++ quote :: rest) ∧ rest.head? ≠ some quote := by
  constructor
  · intro h
    cases cs with
    | nil => cases h
    | cons c cs =>
        rw [readLiteral?] at h
        split at h
        · next hc =>
            obtain ⟨rfl, hrest⟩ := eq_of_readBody? h
            exact ⟨by rw [hc], hrest⟩
        · cases h
  · rintro ⟨rfl, hrest⟩
    rw [readLiteral?, if_pos rfl, readBody?_doubleQuotes value hrest]

/-! ### Literals in front of a text -/

/-- Texts that begin with literals agree exactly if the literals keep the same characters and the same
text follows them. -/
theorem literal_append_eq_iff (limit : Nat) (value other : String) {rest more : List Char}
    (hrest : rest.head? ≠ some quote) (hmore : more.head? ≠ some quote) :
    (literal limit (some value)).toList ++ rest = (literal limit (some other)).toList ++ more ↔
      value.toList.take limit = other.toList.take limit ∧ rest = more := by
  rw [toList_literal_some, toList_literal_some]
  constructor
  · intro h
    have hread : some (value.toList.take limit, rest) = some (other.toList.take limit, more) := by
      rw [← readLiteral?_literalChars limit value.toList hrest, h,
        readLiteral?_literalChars limit other.toList hmore]
    exact Prod.mk.inj (Option.some.inj hread)
  · rintro ⟨h, rfl⟩
    rw [literalChars, literalChars, h]

/-- **Literals end by themselves and lose only what is cut off**: the literal for a value is read as
the characters that the limit leaves, in front of any text that begins with no quote, and nothing
else is read as these.  Values have the same literal exactly if the limit leaves the same of them, and
no literal is another one continued by such a text. -/
theorem readLiteral?_literal (limit : Nat) (value : String) :
    (∀ text rest, readLiteral? text = some (value.toList.take limit, rest) ↔
        text = (literal limit (some value)).toList ++ rest ∧ rest.head? ≠ some quote) ∧
      (value.length ≤ limit → ∀ rest, rest.head? ≠ some quote →
        readLiteral? ((literal limit (some value)).toList ++ rest) = some (value.toList, rest)) ∧
      (∀ other, literal limit (some value) = literal limit (some other) ↔
        value.toList.take limit = other.toList.take limit) ∧
      ∀ other rest, rest.head? ≠ some quote →
        (literal limit (some other)).toList = (literal limit (some value)).toList ++ rest →
          rest = [] := by
  have hnil : ([] : List Char).head? ≠ some quote := by simp
  refine ⟨?_, ?_, ?_, ?_⟩
  · intro text rest
    rw [readLiteral?_eq_some_iff, toList_literal_some, literalChars]
    simp
  · intro hlength rest hrest
    rw [toList_literal_some, readLiteral?_literalChars limit value.toList hrest,
      List.take_of_length_le hlength]
  · intro other
    have h := literal_append_eq_iff limit value other hnil hnil
    rwa [List.append_nil, List.append_nil, String.toList_inj, and_iff_left rfl] at h
  · intro other rest hrest heq
    have h := literal_append_eq_iff limit value other hrest hnil
    rw [List.append_nil, ← heq] at h
    exact (h.1 rfl).2

/-- A value that is cut between two quotes, and the value that is left of it.  The empty literal is
continued to another one, but by a text that begins with a quote. -/
theorem readLiteral?_literal_twoQuotes :
    [','].head? ≠ some quote ∧ "a'".length ≤ 2 ∧
      readLiteral? ((literal 2 (some "a''b")).toList ++ [',']) = some (['a', quote], [',']) ∧
      readLiteral? ((literal 2 (some "a'")).toList ++ [',']) = some ("a'".toList, [',']) ∧
      literal 2 (some "a''b") = literal 2 (some "a'") ∧
      literal 2 (some "a''b") ≠ literal 2 (some "ab") ∧
      (literal 2 (some "'")).toList = (literal 2 (some "")).toList ++ [quote, quote] := by
  have hcomma : [','].head? ≠ some quote := by decide
  have hlength : "a'".length ≤ 2 := by decide
  obtain ⟨hread, -, hequal, -⟩ := readLiteral?_literal 2 "a''b"
  obtain ⟨-, hwhole, -, -⟩ := readLiteral?_literal 2 "a'"
  have hother : "a''b".toList.take 2 ≠ "ab".toList.take 2 := by decide
  exact ⟨hcomma, hlength, (hread _ _).2 ⟨rfl, hcomma⟩, hwhole hlength _ hcomma,
    (hequal "a'").2 (by decide), mt (hequal "ab").1 hother, by decide⟩

end Sql

end Tabular
