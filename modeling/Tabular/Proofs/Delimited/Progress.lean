/-
**Reading a table record by record.**

`Tabular.Delimited.parse` cuts the whole text into lines and decodes them afterwards.  A reader that
works on a stream does both at once: it knows no more than the number of bytes that it has read and
the records that it has found.  Each time it counts the blank lines at this offset, reads one record
from there and decodes it, and the first record that cannot be decoded ends the reading.

This module shows that such a reader comes to the same table, or to the same complaint, and that it
gets there in a bounded number of rounds, because every record takes it forward in the text.

Main definitions:

* `Tabular.Delimited.Reading`, `Tabular.Delimited.Reading.next` — where the reader stands, and **one
  round**;
* `Tabular.Delimited.Reading.EndsAfter` — what the reader comes to after a number of rounds.

Main results:

* `Tabular.Delimited.linesFromOffset_of_some` — the lines behind a record are those from the offset
  where it ends;
* `Tabular.Delimited.Reading.offset_lt_of_next` — **every record moves the reader forward**;
* `Tabular.Delimited.exists_endsAfter` — **the reader comes to what parsing gives**;
* `Tabular.Delimited.parse_bounds` — **the bounds for offsets, rounds and tables**.
-/

import Tabular.Proofs.Delimited.Size

set_option autoImplicit false

namespace Tabular

namespace Delimited

/-! ### The rounds of the reader -/

/-- What the reader knows before a round. -/
structure Reading where
  /-- The number of bytes of the text that have been read. -/
  offset : Nat
  /-- The records that have been found, blank ones included. -/
  table : Table
  deriving DecidableEq, Repr

/-- What a round leads to. -/
inductive Round
  /-- A record was found and decoded. -/
  | again (reading : Reading)
  /-- No record is left, or one that cannot be decoded. -/
  | done (outcome : Except Malformed Table)
  deriving DecidableEq

/-- The text in which the next record is looked for.  In front of the first record a mark is passed
over. -/
def unreadAt (text : Bytes) (offset : Nat) : Bytes :=
  if offset = 0 then Utf8.dropMark text else text.drop offset

namespace Reading

/-- Where the reader stands, as it is told to a user. -/
def position (text : Bytes) (reading : Reading) : Position where
  record := reading.table.countP fun record => !record.isEmpty
  line := 1 + (text.take reading.offset).count lf
  byte := reading.offset

/-- **One round**: the blank lines at the offset, and the next record. -/
def next (delimiter : UInt8) (text : Bytes) (reading : Reading) : Round :=
  let place := Place.ofOffset text reading.offset
  let table := reading.table ++ List.replicate place.blankLines []
  match nextRecord? delimiter (unreadAt text reading.offset) with
  | none => .done (.ok table)
  | some found =>
      match Line.record ⟨place.after, found.cells⟩ with
      | .ok record => .again ⟨text.length - found.rest.length, table ++ [record]⟩
      | .error cell => .done (.error (.notUtf8 (reading.position text) cell))

/-- What the reader comes to, and the number of rounds that this takes. -/
inductive EndsAfter (delimiter : UInt8) (text : Bytes) :
    Nat → Reading → Except Malformed Table → Prop
  | done {reading : Reading} {outcome : Except Malformed Table}
      (h : reading.next delimiter text = .done outcome) :
      EndsAfter delimiter text 1 reading outcome
  | again {rounds : Nat} {reading other : Reading} {outcome : Except Malformed Table}
      (h : reading.next delimiter text = .again other)
      (hother : EndsAfter delimiter text rounds other outcome) :
      EndsAfter delimiter text (rounds + 1) reading outcome

end Reading

/-! ### What a record leaves -/

theorem length_unreadAt_le (text : Bytes) (offset : Nat) :
    (unreadAt text offset).length ≤ text.length - offset := by
  rw [unreadAt]
  split
  · next hzero =>
      rw [hzero, Utf8.dropMark]
      split <;> simp
  · simp

theorem unreadAt_suffix (text : Bytes) (offset : Nat) : unreadAt text offset <:+ text := by
  rw [unreadAt]
  split
  · rw [Utf8.dropMark]
    split
    · exact List.drop_suffix ..
    · exact List.suffix_rfl
  · exact List.drop_suffix ..

/-- The byte that ends a record and the text behind it stand at the end of the text. -/
theorem terminator_append_rest_suffix (d : UInt8) (mode : Mode) (cell : Bytes) (cells : List Bytes)
    (bs : Bytes) : (scan d mode cell cells bs).terminator.toList ++ (scan d mode cell cells bs).rest
      <:+ bs := by
  fun_induction scan d mode cell cells bs with
  | case1 => exact List.suffix_rfl
  | case2 _ _ _ b _ _ _ ih => exact ih.trans (List.suffix_cons ..)
  | case3 _ _ _ b _ _ _ ih => exact ih.trans (List.suffix_cons ..)
  | case4 _ _ _ b _ _ ih => exact ih.trans (List.suffix_cons ..)
  | case5 => exact List.suffix_rfl

/-- A record without a terminator is the last one. -/
theorem rest_eq_nil_of_terminator {d : UInt8} {mode : Mode} {cell : Bytes} {cells : List Bytes}
    {bs : Bytes} (h : (scan d mode cell cells bs).terminator = none) :
    (scan d mode cell cells bs).rest = [] := by
  fun_induction scan d mode cell cells bs with
  | case1 => rfl
  | case2 _ _ _ _ _ _ _ ih => exact ih h
  | case3 _ _ _ _ _ _ _ ih => exact ih h
  | case4 _ _ _ _ _ _ ih => exact ih h
  | case5 => cases h

/-! ### The next offset -/

section

variable {d : UInt8} {text : Bytes} {offset : Nat} {found : Scanned}

/-- A record that is found behind an offset ends behind it, and in the text. -/
theorem lt_length_sub_length_rest (h : nextRecord? d (unreadAt text offset) = some found) :
    offset < text.length - found.rest.length := by
  have hlt := length_rest_lt_of_nextRecord? h
  have hle := length_unreadAt_le text offset
  omega

theorem terminator_append_rest_suffix_of_nextRecord?
    (h : nextRecord? d (unreadAt text offset) = some found) :
    found.terminator.toList ++ found.rest <:+ text := by
  rw [eq_scan_of_nextRecord? h]
  exact (terminator_append_rest_suffix ..).trans
    ((List.dropWhile_suffix isLineBreak).trans (unreadAt_suffix text offset))

/-- What is left behind a record is what is unread at the next offset. -/
theorem unreadAt_next (h : nextRecord? d (unreadAt text offset) = some found) :
    unreadAt text (text.length - found.rest.length) = found.rest := by
  have hlt := lt_length_sub_length_rest h
  have hsuffix : found.rest <:+ text :=
    (List.suffix_append ..).trans (terminator_append_rest_suffix_of_nextRecord? h)
  rw [unreadAt, if_neg (by omega)]
  exact (List.suffix_iff_eq_drop.1 hsuffix).symm

end

/-- The lines of a text from an offset on. -/
def linesFromOffset (delimiter : UInt8) (text : Bytes) (offset : Nat) : List Line :=
  collect delimiter (Place.ofOffset text offset) (unreadAt text offset) []

theorem linesFromOffset_of_none {d : UInt8} {text : Bytes} {offset : Nat}
    (h : nextRecord? d (unreadAt text offset) = none) :
    linesFromOffset d text offset = List.replicate (Place.ofOffset text offset).blankLines
      (Place.ofOffset text offset).blankLine :=
  collect_of_nextRecord?_none h

/-- At the end of a text there are no more lines, whatever stands before it. -/
theorem collect_nil (d : UInt8) {place : Place} (h : place.after = []) :
    collect d place [] [] = [] := by
  rw [collect_of_nextRecord?_none rfl, Place.blankLines_of_after_eq_nil h, List.replicate_zero]

theorem ofOffset_append_cons (front rest : Bytes) (b : UInt8) :
    Place.ofOffset (front ++ b :: rest) (front.length + 1) = ⟨some b, rest⟩ := by
  simp [Place.ofOffset, List.drop_append]

/-- The place behind a record is the one at the offset where the record ends.  A record without a
terminator is an exception, but then no lines follow. -/
theorem collect_behind_record {d : UInt8} {text : Bytes} {offset : Nat} {found : Scanned}
    (h : nextRecord? d (unreadAt text offset) = some found) :
    collect d ⟨found.terminator, found.rest⟩ found.rest []
      = linesFromOffset d text (text.length - found.rest.length) := by
  have hsuffix := terminator_append_rest_suffix_of_nextRecord? h
  rw [linesFromOffset, unreadAt_next h]
  cases hterminator : found.terminator with
  | none =>
      have hrest : found.rest = [] := by
        rw [eq_scan_of_nextRecord? h] at hterminator ⊢
        exact rest_eq_nil_of_terminator hterminator
      rw [hrest, collect_nil d rfl, collect_nil d (by simp [Place.ofOffset])]
  | some b =>
      rw [hterminator] at hsuffix
      obtain ⟨front, htext⟩ := hsuffix
      have hoffset : text.length - found.rest.length = front.length + 1 := by
        rw [← htext]
        simp
        omega
      have hplace : Place.ofOffset text (front.length + 1) = ⟨some b, found.rest⟩ :=
        htext ▸ ofOffset_append_cons front found.rest b
      rw [hoffset, hplace]

/-- **Behind a record** the lines are those from the offset where it ends. -/
theorem linesFromOffset_of_some {d : UInt8} {text : Bytes} {offset : Nat} {found : Scanned}
    (h : nextRecord? d (unreadAt text offset) = some found) :
    linesFromOffset d text offset
      = List.replicate (Place.ofOffset text offset).blankLines
          (Place.ofOffset text offset).blankLine
        ++ ⟨(Place.ofOffset text offset).after, found.cells⟩
          :: linesFromOffset d text (text.length - found.rest.length) := by
  rw [← collect_behind_record h]
  exact collect_of_nextRecord?_some h

/-! ### Decoding as the lines are found -/

/-- Lines that hold the bytes of records are decoded as these, behind others. -/
theorem decodeLines_append_eq_ok {text : Bytes} {earlier later : List Line} {t u : Table}
    (hearlier : decodeLines text earlier = .ok t) (hlater : later.map Line.cells = u.bytes) :
    decodeLines text (earlier ++ later) = .ok (t ++ u) := by
  rw [decodeLines_eq_ok_iff] at hearlier ⊢
  rw [List.map_append, hearlier, hlater, Table.bytes, Table.bytes, Table.bytes, List.map_append]

theorem decodeLines_concat_eq_ok {text : Bytes} {earlier : List Line} {line : Line} {t : Table}
    {record : Record} (hearlier : decodeLines text earlier = .ok t)
    (hline : line.record = .ok record) :
    decodeLines text (earlier ++ [line]) = .ok (t ++ [record]) :=
  decodeLines_append_eq_ok hearlier
    (congrArg (fun cells => [cells]) ((record_eq_ok_iff line record).1 hline))

/-- The first line that cannot be decoded decides, whatever comes behind it. -/
theorem decodeLines_append_eq_error {text : Bytes} {earlier later : List Line} {line : Line}
    {t : Table} {cell : BadCell} (hearlier : decodeLines text earlier = .ok t)
    (hline : line.record = .error cell) :
    decodeLines text (earlier ++ line :: later)
      = .error (.notUtf8 (line.position text earlier) cell) := by
  rw [decodeLines_eq_ok_iff] at hearlier
  rw [decodeLines, List.zipIdx_append, List.mapM_append]
  rw [(mapM_zipIdx_eq_ok_iff (h := List.map Utf8.encode) ?_ earlier 0 t).2 hearlier]
  · rw [List.zipIdx_cons, List.mapM_cons]
    simp [hline, bind, Except.bind]
  · intro line number record
    dsimp only
    rw [← record_eq_ok_iff]
    cases line.record <;> simp

/-- As many records have been found as lines with cells have been read. -/
theorem countP_cells_eq {text : Bytes} {earlier : List Line} {t : Table}
    (h : decodeLines text earlier = .ok t) :
    (earlier.countP fun line => !line.cells.isEmpty) = t.countP fun record => !record.isEmpty := by
  have hcells := congrArg (List.countP fun row => !row.isEmpty) ((decodeLines_eq_ok_iff ..).1 h)
  rw [List.countP_map, Table.bytes, List.countP_map] at hcells
  simpa [Function.comp_def] using hcells

/-- The position before a line is that of the reader. -/
theorem position_eq {text : Bytes} {reading : Reading} {earlier : List Line} {cells : List Bytes}
    (hoffset : reading.offset ≤ text.length)
    (hearlier : decodeLines text earlier = .ok reading.table) (n : Nat) :
    Line.position text
        (earlier ++ List.replicate n (Place.ofOffset text reading.offset).blankLine)
        ⟨(Place.ofOffset text reading.offset).after, cells⟩
      = reading.position text := by
  have hline : Line.offset text ⟨(Place.ofOffset text reading.offset).after, cells⟩
      = reading.offset := by
    rw [Line.offset, Place.ofOffset, List.length_drop]
    omega
  rw [Line.position, Reading.position, hline, List.countP_append, countP_cells_eq hearlier]
  simp [List.countP_replicate, Place.blankLine]

/-! ### One round -/

namespace Reading

section

variable {d : UInt8} {text : Bytes} {reading : Reading}

theorem next_of_none (h : nextRecord? d (unreadAt text reading.offset) = none) :
    reading.next d text
      = .done (.ok (reading.table
          ++ List.replicate (Place.ofOffset text reading.offset).blankLines [])) := by
  rw [next, h]

theorem next_of_ok {found : Scanned} {record : Record}
    (h : nextRecord? d (unreadAt text reading.offset) = some found)
    (hrecord : Line.record ⟨(Place.ofOffset text reading.offset).after, found.cells⟩ = .ok record) :
    reading.next d text
      = .again ⟨text.length - found.rest.length, reading.table
          ++ List.replicate (Place.ofOffset text reading.offset).blankLines [] ++ [record]⟩ := by
  rw [next, h]
  dsimp only
  rw [hrecord]

theorem next_of_error {found : Scanned} {cell : BadCell}
    (h : nextRecord? d (unreadAt text reading.offset) = some found)
    (hrecord : Line.record ⟨(Place.ofOffset text reading.offset).after, found.cells⟩
      = .error cell) :
    reading.next d text = .done (.error (.notUtf8 (reading.position text) cell)) := by
  rw [next, h]
  dsimp only
  rw [hrecord]

/-- **Every record moves the reader forward**, but not out of the text. -/
theorem offset_lt_of_next {other : Reading} (h : reading.next d text = .again other) :
    reading.offset < other.offset ∧ other.offset ≤ text.length := by
  cases hfound : nextRecord? d (unreadAt text reading.offset) with
  | none =>
      rw [next_of_none hfound] at h
      cases h
  | some found =>
      cases hrecord : Line.record ⟨(Place.ofOffset text reading.offset).after, found.cells⟩ with
      | error cell =>
          rw [next_of_error hfound hrecord] at h
          cases h
      | ok record =>
          rw [next_of_ok hfound hrecord] at h
          cases h
          exact ⟨lt_length_sub_length_rest hfound, Nat.sub_le ..⟩

end

end Reading

/-! ### All rounds -/

/-- **The reader comes to what parsing gives**, in at most one round more than there are bytes
left. -/
theorem exists_endsAfter (d : UInt8) (text : Bytes) (reading : Reading) (earlier : List Line)
    (hoffset : reading.offset ≤ text.length)
    (hearlier : decodeLines text earlier = .ok reading.table) :
    ∃ rounds ≤ text.length - reading.offset + 1,
      reading.EndsAfter d text rounds
        (decodeLines text (earlier ++ linesFromOffset d text reading.offset)) := by
  induction hn : text.length - reading.offset using Nat.strongRecOn
    generalizing reading earlier with
  | _ n ih =>
      have hblank : decodeLines text (earlier ++ List.replicate
            (Place.ofOffset text reading.offset).blankLines
            (Place.ofOffset text reading.offset).blankLine)
          = .ok (reading.table
            ++ List.replicate (Place.ofOffset text reading.offset).blankLines []) :=
        decodeLines_append_eq_ok hearlier (by simp [Table.bytes, Place.blankLine])
      cases hfound : nextRecord? d (unreadAt text reading.offset) with
      | none =>
          rw [linesFromOffset_of_none hfound, hblank]
          exact ⟨1, by omega, .done (Reading.next_of_none hfound)⟩
      | some found =>
          rw [linesFromOffset_of_some hfound, ← List.append_assoc]
          cases hrecord : Line.record ⟨(Place.ofOffset text reading.offset).after, found.cells⟩ with
          | error cell =>
              rw [decodeLines_append_eq_error hblank hrecord, position_eq hoffset hearlier]
              exact ⟨1, by omega, .done (Reading.next_of_error hfound hrecord)⟩
          | ok record =>
              have hlt := lt_length_sub_length_rest hfound
              obtain ⟨rounds, hrounds, hends⟩ :=
                ih (text.length - (text.length - found.rest.length)) (by omega) ⟨_, _⟩ _
                  (Nat.sub_le ..) (decodeLines_concat_eq_ok hblank hrecord) rfl
              refine ⟨rounds + 1, by omega, .again (Reading.next_of_ok hfound hrecord) ?_⟩
              simpa using hends

/-- **Reading takes no longer, and gives no more, than the text is long.**  Every record moves the
reader forward in the text; after at most one round more than there are bytes it comes to what
parsing gives; and a table has no more records than the text has bytes, no more bytes in its cells,
and at most one cell more. -/
theorem parse_bounds (d : UInt8) (source : Bytes) :
    let text := Utf8.dropMark source
    (∀ reading other : Reading, reading.next d text = .again other →
        reading.offset < other.offset ∧ other.offset ≤ text.length) ∧
      (∃ rounds ≤ text.length + 1, Reading.EndsAfter d text rounds ⟨0, []⟩ (parse d source)) ∧
      ∀ t, parse d source = .ok t →
        t.length ≤ text.length ∧ t.flatten.length ≤ text.length + 1 ∧
          (t.flatten.map fun cell => (Utf8.encode cell).length).sum ≤ text.length := by
  intro text
  refine ⟨fun reading other => Reading.offset_lt_of_next, ?_, fun t => size_le_of_parse⟩
  exact exists_endsAfter d text ⟨0, []⟩ [] (Nat.zero_le _) rfl

/-- A quote that is never closed takes the second record to the end of the text. -/
theorem parse_bounds_openQuote :
    Reading.next 0x3B (Utf8.encode "a;\r\n\n\"x\n") ⟨3, [["a", ""]]⟩
        = .again ⟨8, [["a", ""], [], ["x\n"]]⟩ ∧
      (3 < 8 ∧ 8 ≤ (Utf8.encode "a;\r\n\n\"x\n").length) ∧
      parse 0x3B (Utf8.mark ++ Utf8.encode "a;\r\n\n\"x\n") = .ok [["a", ""], [], ["x\n"]] ∧
      (∃ rounds ≤ 9, Reading.EndsAfter 0x3B (Utf8.encode "a;\r\n\n\"x\n") rounds ⟨0, []⟩
        (.ok [["a", ""], [], ["x\n"]])) ∧
      ([["a", ""], [], ["x\n"]] : Table).flatten.length ≤ 9 := by
  have hnext : Reading.next 0x3B (Utf8.encode "a;\r\n\n\"x\n") ⟨3, [["a", ""]]⟩
      = .again ⟨8, [["a", ""], [], ["x\n"]]⟩ := by decide +kernel
  have hparse : parse 0x3B (Utf8.mark ++ Utf8.encode "a;\r\n\n\"x\n")
      = .ok [["a", ""], [], ["x\n"]] := by decide +kernel
  have hbounds := parse_bounds 0x3B (Utf8.mark ++ Utf8.encode "a;\r\n\n\"x\n")
  rw [hparse, Utf8.dropMark_mark_append] at hbounds
  obtain ⟨hforward, hrounds, hsize⟩ := hbounds
  obtain ⟨-, hcells, -⟩ := hsize _ rfl
  exact ⟨hnext, hforward _ _ hnext, hparse, hrounds, hcells⟩

end Delimited

end Tabular
