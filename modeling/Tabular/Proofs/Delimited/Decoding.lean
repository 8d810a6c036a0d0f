/-
**When a text parses.**

Parsing cuts a text into lines and decodes their cells.  Decoding either leaves everything in its
place or fails as a whole, so a text parses to a table exactly if the cells on its lines are the
encodings of the cells of the table.

Main definitions:

* `Tabular.Utf8.Valid` — a byte sequence that encodes a string;
* `Tabular.Table.bytes` — the cells of a table as bytes.

Main results:

* `Tabular.Delimited.parse_eq_ok_iff` — **a text parses to a table exactly if its lines hold the
  bytes of the table**;
* `Tabular.Delimited.exists_parse_eq_ok_iff` — a text parses exactly if all its cells are valid.
-/

import Mathlib.Data.List.Basic
import Mathlib.Data.Set.List
import Tabular.Delimited.Parser

set_option autoImplicit false

namespace Tabular

/-- A byte sequence that encodes a string. -/
def Utf8.Valid (bs : Bytes) : Prop := ∃ s, Utf8.encode s = bs

/-- The cells of a table as bytes. -/
def Table.bytes (table : Table) : List (List Bytes) := table.map (List.map Utf8.encode)

namespace Table

/-- Lists of cells are the bytes of a table exactly if all cells are valid. -/
theorem exists_bytes_eq_iff (rows : List (List Bytes)) :
    (∃ t : Table, t.bytes = rows) ↔ ∀ row ∈ rows, ∀ cell ∈ row, Utf8.Valid cell := by
  have hrow (row : List Bytes) :
      (∃ record : Record, record.map Utf8.encode = row) ↔ ∀ cell ∈ row, Utf8.Valid cell :=
    Set.ext_iff.1 (Set.range_list_map Utf8.encode) row
  have htable : (∃ t : Table, t.bytes = rows) ↔
      ∀ row ∈ rows, ∃ record : Record, record.map Utf8.encode = row :=
    Set.ext_iff.1 (Set.range_list_map (List.map Utf8.encode)) rows
  simp only [htable, hrow]

/-- A table is cut where its bytes are cut. -/
theorem exists_append_eq_of_bytes {t v : Table} {rows : List (List Bytes)}
    (h : t.bytes ++ rows = v.bytes) : ∃ u, v = t ++ u ∧ rows = u.bytes := by
  obtain ⟨front, u, rfl, hfront, hrows⟩ := List.append_eq_map_iff.1 h
  have hinjective : Function.Injective (List.map Utf8.encode) :=
    List.map_injective_iff.2 fun _ _ => Utf8.encode_injective
  obtain rfl : front = t := List.map_injective_iff.2 hinjective hfront
  exact ⟨u, rfl, hrows.symm⟩

end Table

namespace Delimited

/-! ### Decoding part by part -/

/-- Numbering the parts of a list does not matter to a step that looks at the number only where
it fails. -/
theorem mapM_zipIdx_eq_ok_iff {α β γ ε : Type} {f : α × Nat → Except ε β} {g : α → γ} {h : β → γ}
    (hf : ∀ a i b, f (a, i) = .ok b ↔ g a = h b) (as : List α) (n : Nat) (bs : List β) :
    (as.zipIdx n).mapM f = .ok bs ↔ as.map g = bs.map h := by
  induction as generalizing n bs with
  | nil => cases bs <;> simp [pure, Except.pure]
  | cons a as ih =>
      rw [List.zipIdx_cons, List.mapM_cons]
      cases bs with
      | nil =>
          cases f (a, n) <;> cases (as.zipIdx (n + 1)).mapM f <;>
            simp [bind, Except.bind, pure, Except.pure]
      | cons b bs =>
          rw [List.map_cons, List.map_cons, List.cons.injEq, ← hf a n b, ← ih (n + 1) bs]
          cases f (a, n) <;> cases (as.zipIdx (n + 1)).mapM f <;>
            simp [bind, Except.bind, pure, Except.pure]

theorem decodeCell_eq_ok_iff (cell : Bytes) (field : Nat) (text : String) :
    decodeCell cell field = .ok text ↔ cell = Utf8.encode text := by
  have hdecode : Utf8.decode? cell = some text ↔ Utf8.encode text = cell :=
    Utf8.decode?_eq_some_iff
  rw [eq_comm (a := cell), ← hdecode, decodeCell]
  cases Utf8.decode? cell <;> simp

/-- A line is decoded as a record exactly if it holds the bytes of the record. -/
theorem record_eq_ok_iff (line : Line) (record : Record) :
    line.record = .ok record ↔ line.cells = record.map Utf8.encode := by
  have h := mapM_zipIdx_eq_ok_iff (f := fun p => decodeCell p.1 p.2) (g := id)
    decodeCell_eq_ok_iff line.cells 0 record
  rwa [List.map_id] at h

theorem decodeLines_eq_ok_iff (text : Bytes) (found : List Line) (t : Table) :
    decodeLines text found = .ok t ↔ found.map Line.cells = t.bytes := by
  refine mapM_zipIdx_eq_ok_iff (fun line number record => ?_) found 0 t
  rw [← record_eq_ok_iff]
  dsimp only
  cases line.record <;> simp

/-! ### Parsing -/

/-- **A text parses to a table exactly if its lines hold the bytes of the table.** -/
theorem parse_eq_ok_iff (d : UInt8) (source : Bytes) (t : Table) :
    parse d source = .ok t ↔ (lines d (Utf8.dropMark source)).map Line.cells = t.bytes :=
  decodeLines_eq_ok_iff ..

/-- A text parses exactly if all cells on its lines are valid. -/
theorem exists_parse_eq_ok_iff (d : UInt8) (source : Bytes) :
    (∃ t, parse d source = .ok t) ↔
      ∀ row ∈ (lines d (Utf8.dropMark source)).map Line.cells, ∀ cell ∈ row, Utf8.Valid cell := by
  rw [← Table.exists_bytes_eq_iff]
  exact exists_congr fun t => (parse_eq_ok_iff d source t).trans eq_comm

end Delimited

end Tabular
