/-
**What the delimiters that a user can name are good for.**

An argument names a delimiter if it is one ASCII character or one of two words for the tabulator.
Nothing beyond ASCII can be named, and so a text in UTF-8 is never refused, whatever the delimiter,
the quotes and the line endings are: no cell of it ends inside a character.

More is not asked of a delimiter.  A quote, a carriage return and a line feed can be named like any
other ASCII character, and with these three a printed table may be read back as another one, because
the reader takes the byte for something else.  With every other argument all tables are read back as
they were, records without cells and marks in front apart.

Main results:

* `Tabular.Delimited.namedDelimiter_eq_ok_iff` — which arguments name which delimiter;
* `Tabular.Delimited.exists_parse_of_namedDelimiter` — **a text in UTF-8 parses with every delimiter
  that can be named**;
* `Tabular.Delimited.forall_parse_print_iff_of_namedDelimiter` — **tables are read back as they were
  exactly if the argument is none of these three characters**.
-/

import Tabular.Proofs.Delimited.Characters
import Tabular.Proofs.Delimited.RoundTrip

set_option autoImplicit false

namespace Tabular

namespace Delimited

/-! ### Which delimiters can be named -/

/-- A word for the tabulator has more than one byte. -/
theorem encode_word_ne_singleton {argument : String} (h : argument = "tab" ∨ argument = "\\t")
    (b : UInt8) : Utf8.encode argument ≠ [b] := by
  intro hb
  have hlength : (Utf8.encode argument).length = 1 := congrArg List.length hb
  rcases h with rfl | rfl <;> exact absurd hlength (by decide)

theorem namedDelimiter_eq_ok_iff {argument : String} {d : UInt8} :
    namedDelimiter argument = .ok d ↔
      (argument = "tab" ∨ argument = "\\t") ∧ d = tab ∨ Utf8.encode argument = [d] := by
  rw [namedDelimiter]
  split
  · next hword =>
      simp [hword, encode_word_ne_singleton hword, eq_comm]
  · next hword =>
      split
      · next b hb => simp [hword, hb]
      · next hb => simpa [hword] using hb d

theorem lt_of_namedDelimiter {argument : String} {d : UInt8} (h : namedDelimiter argument = .ok d) :
    d < 0x80 := by
  rcases namedDelimiter_eq_ok_iff.1 h with ⟨-, rfl⟩ | hbyte
  · decide
  · exact Utf8.lt_of_encode_eq_singleton hbyte

/-- A byte that is written as a character is named by that character only. -/
theorem eq_iff_of_namedDelimiter {argument s : String} {d b : UInt8} (hs : Utf8.encode s = [b])
    (hb : b ≠ tab) (h : namedDelimiter argument = .ok d) : d = b ↔ argument = s := by
  rcases namedDelimiter_eq_ok_iff.1 h with ⟨hword, rfl⟩ | hbyte
  · refine iff_of_false hb.symm ?_
    rintro rfl
    exact encode_word_ne_singleton hword b hs
  · constructor
    · rintro rfl
      exact Utf8.encode_injective (hbyte.trans hs.symm)
    · rintro rfl
      exact List.singleton_inj.1 (hbyte.symm.trans hs)

theorem properDelimiter_iff_of_namedDelimiter {argument : String} {d : UInt8}
    (h : namedDelimiter argument = .ok d) :
    ProperDelimiter d ↔ argument ≠ "\"" ∧ argument ≠ "\r" ∧ argument ≠ "\n" := by
  have hquote : d = quote ↔ argument = "\"" := eq_iff_of_namedDelimiter (by decide) (by decide) h
  have hcr : d = cr ↔ argument = "\r" := eq_iff_of_namedDelimiter (by decide) (by decide) h
  have hlf : d = lf ↔ argument = "\n" := eq_iff_of_namedDelimiter (by decide) (by decide) h
  constructor
  · intro hd
    exact ⟨mt hquote.2 hd.ne_quote, mt hcr.2 hd.ne_cr, mt hlf.2 hd.ne_lf⟩
  · rintro ⟨hq, hr, hn⟩
    exact ⟨mt hquote.1 hq, mt hcr.1 hr, mt hlf.1 hn⟩

/-! ### Reading with a named delimiter -/

/-- **A text in UTF-8 parses with every delimiter that can be named**: each cell that is cut out of
it is UTF-8, and the table holds these cells. -/
theorem exists_parse_of_namedDelimiter {argument : String} {d : UInt8}
    (h : namedDelimiter argument = .ok d) {source : Bytes} (hsource : Utf8.Valid source) :
    (∀ line ∈ lines d (Utf8.dropMark source), ∀ cell ∈ line.cells, Utf8.Valid cell) ∧
      ∃ t, parse d source = .ok t ∧
        t.bytes = (lines d (Utf8.dropMark source)).map Line.cells := by
  have hvalid := valid_of_mem_lines (lt_of_namedDelimiter h) hsource.dropMark
  refine ⟨List.forall_mem_map.1 hvalid, ?_⟩
  obtain ⟨t, ht⟩ := (exists_parse_eq_ok_iff d source).2 hvalid
  exact ⟨t, ht, ((parse_eq_ok_iff d source t).1 ht).symm⟩

/-- Three marks, a cell that is never closed, and a quote that is the delimiter. -/
theorem exists_parse_of_namedDelimiter_quote :
    namedDelimiter "\"" = .ok quote ∧
      Utf8.Valid (Utf8.encode "\uFEFF\uFEFF\uFEFFé\"\r\r\n\"ü\n€") ∧
      (∃ t, parse quote (Utf8.encode "\uFEFF\uFEFF\uFEFFé\"\r\r\n\"ü\n€") = .ok t ∧
        t.bytes = (lines quote (Utf8.dropMark (Utf8.encode
          "\uFEFF\uFEFF\uFEFFé\"\r\r\n\"ü\n€"))).map Line.cells) ∧
      parse quote (Utf8.encode "\uFEFF\uFEFF\uFEFFé\"\r\r\n\"ü\n€")
        = .ok [["\uFEFFé", ""], [], ["ü\n€"]] := by
  have hname : namedDelimiter "\"" = .ok quote := namedDelimiter_eq_ok_iff.2 (Or.inr (by decide))
  have hvalid : Utf8.Valid (Utf8.encode "\uFEFF\uFEFF\uFEFFé\"\r\r\n\"ü\n€") := ⟨_, rfl⟩
  exact ⟨hname, hvalid, (exists_parse_of_namedDelimiter hname hvalid).2, by decide +kernel⟩

/-! ### Writing with a named delimiter -/

/-- An empty cell and another one are read as something else where the delimiter is a quote, which
opens the record, or a line break, which makes a blank line. -/
theorem parse_print_ne_of_not_properDelimiter {d : UInt8} (hd : ¬ ProperDelimiter d) :
    parse d (print d [["", "b"]]) ≠ .ok [["", "b"]] := by
  have hcases : d = quote ∨ d = cr ∨ d = lf := by
    by_contra h
    simp only [not_or] at h
    exact hd ⟨h.1, h.2.1, h.2.2⟩
  rcases hcases with rfl | rfl | rfl <;> decide +kernel

/-- **Tables are read back as they were exactly if the argument is none of these three
characters**: with each of them some table without empty records and without a mark is not. -/
theorem forall_parse_print_iff_of_namedDelimiter {argument : String} {d : UInt8}
    (h : namedDelimiter argument = .ok d) :
    (∀ t : Table, (∀ record ∈ t, record ≠ []) → ¬ t.BeginsWithMark →
        parse d (print d t) = .ok t) ↔
      argument ≠ "\"" ∧ argument ≠ "\r" ∧ argument ≠ "\n" := by
  rw [← properDelimiter_iff_of_namedDelimiter h]
  constructor
  · intro hall
    by_contra hd
    exact parse_print_ne_of_not_properDelimiter hd (hall _ (by decide) (by decide))
  · intro hd t hne hmark
    exact (parse_print_eq_ok_iff_of_forall_ne_nil hd hne).2 (mt HidesMark.beginsWithMark hmark)

theorem forall_parse_print_iff_of_namedDelimiter_tab :
    namedDelimiter "\\t" = .ok tab ∧
      (∀ record ∈ [["", "\t\""], ["a\r"]], record ≠ []) ∧
      ¬ Table.BeginsWithMark [["", "\t\""], ["a\r"]] ∧
      parse tab (print tab [["", "\t\""], ["a\r"]]) = .ok [["", "\t\""], ["a\r"]] := by
  have hname : namedDelimiter "\\t" = .ok tab :=
    namedDelimiter_eq_ok_iff.2 (Or.inl ⟨Or.inr rfl, rfl⟩)
  have hne : ∀ record ∈ [["", "\t\""], ["a\r"]], record ≠ [] := by decide
  have hmark : ¬ Table.BeginsWithMark [["", "\t\""], ["a\r"]] := by decide
  refine ⟨hname, hne, hmark, ?_⟩
  exact (forall_parse_print_iff_of_namedDelimiter hname).2 (by decide) _ hne hmark

/-- A quote can be named, and a table of two cells that is printed with it comes back as one. -/
theorem not_forall_parse_print_quote :
    namedDelimiter "\"" = .ok quote ∧ (∀ record ∈ [["", "b"]], record ≠ []) ∧
      ¬ Table.BeginsWithMark [["", "b"]] ∧
      parse quote (print quote [["", "b"]]) = .ok [["b\n"]] ∧
      ¬ ∀ (argument : String) (d : UInt8), namedDelimiter argument = .ok d →
        ∀ t : Table, (∀ record ∈ t, record ≠ []) → ¬ t.BeginsWithMark →
          parse d (print d t) = .ok t := by
  have hname : namedDelimiter "\"" = .ok quote := namedDelimiter_eq_ok_iff.2 (Or.inr (by decide))
  have hne : ∀ record ∈ [["", "b"]], record ≠ [] := by decide
  have hmark : ¬ Table.BeginsWithMark [["", "b"]] := by decide
  have hparse : parse quote (print quote [["", "b"]]) = .ok [["b\n"]] := by decide +kernel
  refine ⟨hname, hne, hmark, hparse, ?_⟩
  intro hall
  have hback := hall "\"" quote hname [["", "b"]] hne hmark
  rw [hparse] at hback
  revert hback
  decide

end Delimited

end Tabular
