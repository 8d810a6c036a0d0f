/-
**Appending to a printed table.**

Every line of a printed table is ended by a line feed, outside quotes.  So what is appended to a
printed table is read as if it stood alone, however it is made: its blank lines in front are blank
lines still, and a quote that it leaves open does not reach back.  The byte order mark is the one
thing that depends on where a text begins, and neither the table nor what is appended begins with
one here.

Main results:

* `Tabular.Delimited.mark_isPrefix_print_append_iff` — a mark in front of both is a mark in front of
  the table;
* `Tabular.Delimited.cells_lines_print_append` — the lines behind a printed table are those of the
  text behind it;
* `Tabular.Delimited.parse_print_append` — **appending to a printed table appends to the table**.
-/

import Tabular.Proofs.Delimited.RoundTrip

set_option autoImplicit false

namespace Tabular

namespace Delimited

/-! ### A mark in front of both -/

theorem lf_mem_print (d : UInt8) {t : Table} (h : t ≠ []) : lf ∈ print d t := by
  obtain ⟨record, t, rfl⟩ := List.exists_cons_of_ne_nil h
  rw [print_cons, printRecord]
  simp

/-- The mark does not reach over a line feed. -/
theorem mark_isPrefix_of_lf_mem {front text : Bytes} (h : lf ∈ front)
    (hmark : Utf8.mark <+: front ++ text) : Utf8.mark <+: front := by
  rcases Nat.le_total Utf8.mark.length front.length with hle | hle
  · exact List.prefix_of_prefix_length_le hmark (List.prefix_append ..) hle
  · have hfront : front <+: Utf8.mark :=
      List.prefix_of_prefix_length_le (List.prefix_append ..) hmark hle
    exact absurd (hfront.subset h) (by decide)

/-- A text behind a table that is not empty has no part in a mark. -/
theorem mark_isPrefix_print_append_iff (d : UInt8) {t : Table} (h : t ≠ []) (text : Bytes) :
    Utf8.mark <+: print d t ++ text ↔ HidesMark d t := by
  rw [← mark_isPrefix_print_iff]
  constructor
  · exact mark_isPrefix_of_lf_mem (lf_mem_print d h)
  · intro hmark
    exact hmark.trans (List.prefix_append ..)

theorem not_mark_isPrefix_print_append {d : UInt8} {t : Table} (ht : ¬ HidesMark d t) {text : Bytes}
    (htext : ¬ Utf8.mark <+: text) : ¬ Utf8.mark <+: print d t ++ text := by
  by_cases hnil : t = []
  · rwa [hnil, print_nil, List.nil_append]
  · rwa [mark_isPrefix_print_append_iff d hnil]

/-! ### Reading both -/

section

variable {d : UInt8} (hd : ProperDelimiter d) {t : Table} {text : Bytes}
  (htext : ¬ Utf8.mark <+: text)

include hd htext

/-- The lines of the text follow those of the table. -/
theorem cells_lines_print_append (ht : ¬ HidesMark d t) :
    (lines d (print d t ++ text)).map Line.cells
      = t.filled.bytes ++ (lines d text).map Line.cells := by
  rw [cells_lines d (not_mark_isPrefix_print_append ht htext), cells_lines d htext, onePass,
    onePass, run_print hd, List.map_append, map_cells_ofRecord]

theorem parse_print_append_eq_ok_iff (ht : ¬ HidesMark d t) (v : Table) :
    parse d (print d t ++ text) = .ok v ↔ ∃ u, parse d text = .ok u ∧ v = t.filled ++ u := by
  rw [parse_eq_ok_iff, Utf8.dropMark_of_not_isPrefix (not_mark_isPrefix_print_append ht htext),
    cells_lines_print_append hd htext ht]
  simp only [parse_eq_ok_iff, Utf8.dropMark_of_not_isPrefix htext]
  constructor
  · intro h
    obtain ⟨u, hv, hlines⟩ := Table.exists_append_eq_of_bytes h
    exact ⟨u, hlines, hv⟩
  · rintro ⟨u, hlines, rfl⟩
    rw [hlines, Table.bytes, Table.bytes, Table.bytes, List.map_append]

/-- **Appending to a printed table appends to the table**: what is appended gives the records that
it gives alone, and is refused if it is refused alone. -/
theorem parse_print_append (ht : ¬ t.BeginsWithMark) :
    (∀ u, parse d text = .ok u → parse d (print d t ++ text) = .ok (t.filled ++ u)) ∧
      ∀ cause, parse d text = .error cause →
        ∃ other, parse d (print d t ++ text) = .error other := by
  have hiff := parse_print_append_eq_ok_iff hd htext (mt HidesMark.beginsWithMark ht)
  refine ⟨fun u hu => (hiff _).2 ⟨u, hu, rfl⟩, fun cause hcause => ?_⟩
  cases hparse : parse d (print d t ++ text) with
  | error other => exact ⟨other, rfl⟩
  | ok v =>
      obtain ⟨u, hu, -⟩ := (hiff v).1 hparse
      rw [hcause] at hu
      cases hu

end

/-- Blank lines of both kinds, a stray quote and a quote that is never closed, behind a table with a
record without cells; and a byte that is no text. -/
theorem parse_print_append_openQuote :
    ProperDelimiter comma ∧ ¬ Table.BeginsWithMark [["a", "x\n"], []] ∧
      ¬ Utf8.mark <+: Utf8.encode "\r\n\rb\"c\n\"d," ∧ ¬ Utf8.mark <+: [0xEF, 0xBB, 0x2C] ∧
      print comma [["a", "x\n"], []] = Utf8.encode "a,\"x\n\"\n\"\"\n" ∧
      parse comma (Utf8.encode "a,\"x\n\"\n\"\"\n" ++ Utf8.encode "\r\n\rb\"c\n\"d,")
        = .ok [["a", "x\n"], [""], [], [], ["b\"c"], ["d,"]] ∧
      ∃ other, parse comma (Utf8.encode "a,\"x\n\"\n\"\"\n" ++ [0xEF, 0xBB, 0x2C])
        = .error other := by
  have hmark : ¬ Table.BeginsWithMark [["a", "x\n"], []] := by decide
  have htext : ¬ Utf8.mark <+: Utf8.encode "\r\n\rb\"c\n\"d," := by decide
  have hbytes : ¬ Utf8.mark <+: [0xEF, 0xBB, 0x2C] := by decide
  have hprint : print comma [["a", "x\n"], []] = Utf8.encode "a,\"x\n\"\n\"\"\n" := by decide
  have hparse : parse comma (Utf8.encode "\r\n\rb\"c\n\"d,")
      = .ok [[], [], ["b\"c"], ["d,"]] := by decide +kernel
  have hrefused : parse comma [0xEF, 0xBB, 0x2C]
      = .error (.notUtf8 ⟨0, 1, 0⟩ ⟨0, 0⟩) := by decide +kernel
  refine ⟨properDelimiter_comma, hmark, htext, hbytes, hprint, ?_, ?_⟩
  · rw [← hprint]
    exact (parse_print_append properDelimiter_comma htext hmark).1 _ hparse
  · rw [← hprint]
    exact (parse_print_append properDelimiter_comma hbytes hmark).2 _ hrefused

end Delimited

end Tabular
