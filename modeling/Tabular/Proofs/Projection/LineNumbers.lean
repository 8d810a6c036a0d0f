/-
**Notes that name lines.**

A note on a missing column gives the number of a row, and the user looks for a line.  In a text
without quotes no cell holds a line break, so the two are the same: blank lines are counted like all
others, whatever ends them, and the notes name the lines of the text as an editor shows them.

Main definitions:

* `Tabular.inRange`, `Tabular.outOfRange` — the cells of a line at requested columns, and the notes
  on those it does not have.

Main results:

* `Tabular.ofTable_textLines` — **the projection of a text is the projection of its numbered
  lines**.
-/

import Tabular.Projection
import Tabular.Proofs.Column
import Tabular.Proofs.Delimited.PlainText

set_option autoImplicit false

namespace Tabular

open Delimited (ProperDelimiter textLines fieldsOf)

/-! ### One line -/

/-- The fields of a line at those columns that it has. -/
def inRange (columns : List Int) (fields : Record) : Record :=
  columns.filterMap fun index => if index < 0 then none else fields[index.toNat]?

/-- A note for each column that the line with a given number does not have. -/
def outOfRange (columns : List Int) (number : Nat) (fields : Record) : List MissingColumn :=
  (columns.filter fun index => index < 0 ∨ (fields.length : Int) ≤ index).map fun index =>
    ⟨number, index, fields.length⟩

theorem Projection.cells_eq_inRange (projection : Projection) (row : Record) :
    projection.cells row = inRange projection.columns row := by
  refine List.filterMap_congr ?_
  intro index _
  by_cases hneg : index < 0
  · have hnone : Column.position? index row.length = none :=
      Column.position?_eq_none_iff.2 (Or.inl hneg)
    rw [if_pos hneg, hnone, Option.bind_none]
  · rw [if_neg hneg]
    cases hposition : Column.position? index row.length with
    | none =>
        have hge := (Column.position?_eq_none_iff.1 hposition).resolve_left hneg
        rw [Option.bind_none, List.getElem?_eq_none (by omega)]
    | some i =>
        obtain ⟨rfl, -⟩ := Column.position?_eq_some_iff.1 hposition
        rfl

theorem Projection.missing_eq_outOfRange (projection : Projection) (number : Nat) {row : Record}
    (hrow : row ≠ []) :
    projection.missing number row = outOfRange projection.columns number row := by
  rw [missing, if_neg (by simpa using hrow), outOfRange]
  congr 1
  refine List.filter_congr ?_
  intro index _
  rw [Bool.eq_iff_iff, Option.isNone_iff_eq_none, decide_eq_true_iff]
  exact Column.position?_eq_none_iff

/-! ### Numbered lines -/

section Lines

variable (projection : Projection) (delimiter : Char) (lines : List (List Char))

theorem Projection.missing_onTable_map_fieldsOf :
    (projection.onTable (lines.map (fieldsOf delimiter))).missing
      = (lines.zipIdx 1).flatMap fun (line, number) =>
          if line = [] then []
          else outOfRange projection.columns number (fieldsOf delimiter line) := by
  rw [onTable, List.zipIdx_map, List.flatMap_map]
  refine List.flatMap_congr ?_
  rintro ⟨line, number⟩ _
  dsimp only [Prod.map]
  by_cases hline : line = []
  · rw [if_pos hline, hline]
    rfl
  · rw [if_neg hline]
    exact projection.missing_eq_outOfRange number (mt Delimited.fieldsOf_eq_nil_iff.1 hline)

theorem Projection.records_onTable_map_fieldsOf :
    (projection.onTable (lines.map (fieldsOf delimiter))).records
      = (lines.filter (· ≠ [])).map fun line =>
          inRange projection.columns (fieldsOf delimiter line) := by
  change (lines.map (fieldsOf delimiter)).filterMap projection.record? = _
  rw [List.filterMap_map, ← List.filterMap_eq_map, List.filterMap_filter]
  refine List.filterMap_congr ?_
  intro line _
  by_cases hline : line = []
  · simp [hline]
  · have hfields : fieldsOf delimiter line ≠ [] := mt Delimited.fieldsOf_eq_nil_iff.1 hline
    simp [hline, record?, hfields, cells_eq_inRange]

end Lines

/-- **The projection of a text is the projection of its numbered lines**, for a text without quotes
and with or without a byte order mark in front: each line that is not empty gives its fields at the
requested columns that it has, and a note with its number for each one that it does not have. -/
theorem ofTable_textLines {d : UInt8} (hascii : d < 0x80) (hd : ProperDelimiter d) {text : String}
    (hquote : '"' ∉ text.toList) (hmark : text.toList.head? ≠ some Utf8.markChar) {source : Bytes}
    (hsource : source = Utf8.encode text ∨ source = Utf8.mark ++ Utf8.encode text)
    (requests : List Int) :
    ∃ table columns, Delimited.parse d source = .ok table ∧
      Column.FirstRequests requests columns ∧
      (Projected.ofTable table requests).missing
        = ((textLines text).zipIdx 1).flatMap (fun (line, number) =>
            if line = [] then []
            else outOfRange columns number (fieldsOf (Char.ofUInt8 d) line)) ∧
      (Projected.ofTable table requests).records
        = ((textLines text).filter (· ≠ [])).map fun line =>
            inRange columns (fieldsOf (Char.ofUInt8 d) line) := by
  refine ⟨_, Column.distinct requests,
    Delimited.parse_plainText hascii hd hquote hmark hsource,
    Column.firstRequests_distinct requests, ?_, ?_⟩
  · exact (Projection.ofRequests requests).missing_onTable_map_fieldsOf ..
  · exact (Projection.ofRequests requests).records_onTable_map_fieldsOf ..

/-- Lines that end in all three ways, two of them blank, and a last one that does not end. -/
def mixedLines : String := "a,b\r\n\r1\n\n,x,"

theorem ofTable_textLines_mixedLines :
    Delimited.comma < 0x80 ∧ ProperDelimiter Delimited.comma ∧ '"' ∉ mixedLines.toList ∧
      mixedLines.toList.head? ≠ some Utf8.markChar ∧
      textLines mixedLines = ["a,b".toList, [], "1".toList, [], ",x,".toList] ∧
      ∃ table columns,
        Delimited.parse Delimited.comma (Utf8.mark ++ Utf8.encode mixedLines) = .ok table ∧
        Column.FirstRequests [1, -1, 1, 2] columns ∧
        (Projected.ofTable table [1, -1, 1, 2]).missing
          = ((textLines mixedLines).zipIdx 1).flatMap (fun (line, number) =>
              if line = [] then []
              else outOfRange columns number (fieldsOf (Char.ofUInt8 Delimited.comma) line)) ∧
        (Projected.ofTable table [1, -1, 1, 2]).records
          = ((textLines mixedLines).filter (· ≠ [])).map fun line =>
              inRange columns (fieldsOf (Char.ofUInt8 Delimited.comma) line) := by
  have hascii : Delimited.comma < 0x80 := by decide
  have hd : ProperDelimiter Delimited.comma := ⟨by decide, by decide, by decide⟩
  have hquote : '"' ∉ mixedLines.toList := by decide
  have hmark : mixedLines.toList.head? ≠ some Utf8.markChar := by decide
  exact ⟨hascii, hd, hquote, hmark, by decide,
    ofTable_textLines hascii hd hquote hmark (Or.inr rfl) [1, -1, 1, 2]⟩

end Tabular
