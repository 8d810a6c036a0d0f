/-
**Printing a table and parsing it back.**

A printed table is one of the spellings of the table, so it is read back as it was, with two
exceptions.  A record without cells has no line of its own: it is printed like a record of one empty
cell and comes back as that.  And a text whose first character is U+FEFF is taken for a text with a
byte order mark: if the first cell of the first record begins with that character and is not
quoted, the character is lost.

Main definitions:

* `Tabular.Record.filled`, `Tabular.Table.filled` — records without cells replaced by records of
  one empty cell;
* `Tabular.Delimited.HidesMark` — a table whose printed form begins with a byte order mark;
* `Tabular.Table.BeginsWithMark` — a table whose first cell begins with that character.

Main results:

* `Tabular.Delimited.run_print` — behind a printed table the pass stands as at the beginning;
* `Tabular.Delimited.mark_isPrefix_print_iff` — when a printed table begins with a mark;
* `Tabular.Delimited.parse_print_iff` — **a printed table is parsed as it was exactly if it does not
  begin with a mark**.
-/

import Tabular.Proofs.Delimited.Spelling
import Tabular.Proofs.Utf8

set_option autoImplicit false

namespace Tabular

/-- A record as it comes back: without cells it is printed like one empty cell. -/
def Record.filled (record : Record) : Record := if record = [] then [""] else record

/-- A table as it comes back. -/
def Table.filled (table : Table) : Table := table.map Record.filled

theorem Table.filled_of_forall_ne_nil {t : Table} (h : ∀ record ∈ t, record ≠ []) :
    t.filled = t := by
  have hrecord : ∀ record ∈ t, record.filled = record := by
    intro record hmem
    exact if_neg (h record hmem)
  rw [filled, List.map_congr_left hrecord, List.map_id']

/-- A table whose first cell begins with U+FEFF, whether it is printed in quotes or not. -/
def Table.BeginsWithMark : Table → Prop
  | (cell :: _) :: _ => cell.toList.head? = some Utf8.markChar
  | _ => False

instance Table.decidableBeginsWithMark : (t : Table) → Decidable t.BeginsWithMark
  | [] => .isFalse id
  | [] :: _ => .isFalse id
  | (cell :: _) :: _ => inferInstanceAs (Decidable (cell.toList.head? = some Utf8.markChar))

namespace Delimited

/-! ### Printing is spelling -/

theorem joinCells_cons (d : UInt8) (cell : String) (record : Record) :
    joinCells d (cell :: record)
      = printCell d (Utf8.encode cell) ++ if record = [] then [] else d :: joinCells d record := by
  cases record <;> simp [joinCells]

theorem printRecord_of_eq_nil {d : UInt8} {record : Record} (h : joinCells d record = []) :
    printRecord d record = [quote, quote, lf] := by
  simp [printRecord, h]

theorem printRecord_of_ne_nil {d : UInt8} {record : Record} (h : joinCells d record ≠ []) :
    printRecord d record = joinCells d record ++ [lf] := by
  simp [printRecord, h]

/-- What follows the first cell of a record on its line. -/
def behindCell (d : UInt8) (record : Record) : Bytes :=
  (if record = [] then [] else d :: joinCells d record) ++ [lf]

theorem printRecord_of_bare {d : UInt8} {cell : String} {record : Record}
    (hq : needsQuotes d (Utf8.encode cell) = false) (hne : cell ≠ "" ∨ record ≠ []) :
    printRecord d (cell :: record) = Utf8.encode cell ++ behindCell d record := by
  have hjoin : joinCells d (cell :: record) = Utf8.encode cell ++
      if record = [] then [] else d :: joinCells d record := by
    rw [joinCells_cons, printCell, if_neg (by simp [hq])]
  rw [printRecord_of_ne_nil, hjoin, behindCell, List.append_assoc]
  rw [hjoin]
  rcases hne with hcell | hrecord
  · simp [Utf8.encode_eq_nil_iff, hcell]
  · simp [hrecord]

theorem needsQuotes_eq_false_iff {d : UInt8} {cell : Bytes} :
    needsQuotes d cell = false ↔ ∀ b ∈ cell, b ≠ d ∧ b ≠ quote ∧ b ≠ cr ∧ b ≠ lf := by
  simp [needsQuotes, isLineBreak, and_assoc]

theorem spellsCell_printCell (d : UInt8) (cell : String) :
    SpellsCell d cell (printCell d (Utf8.encode cell)) := by
  rw [printCell]
  split
  · exact .quoted
  · next h =>
      have hbytes := needsQuotes_eq_false_iff.1 (Bool.eq_false_iff.2 h)
      refine .bare (fun b hb => ?_) (fun hquote => ?_)
      · obtain ⟨hd, -, hbreak⟩ := hbytes b hb
        exact ⟨hd, hbreak⟩
      · obtain ⟨-, hne, -⟩ := hbytes quote (List.mem_of_mem_head? hquote)
        exact hne rfl

theorem spellsCells_joinCells (d : UInt8) (cell : String) (record : Record) :
    SpellsCells d (cell :: record) (joinCells d (cell :: record)) := by
  induction record generalizing cell with
  | nil =>
      rw [joinCells_cons, if_pos rfl, List.append_nil]
      exact .one (spellsCell_printCell d cell)
  | cons next record ih =>
      rw [joinCells_cons, if_neg (List.cons_ne_nil next record)]
      exact .cons (spellsCell_printCell d cell) (ih next)

/-- Only a record of one empty cell would leave its line empty. -/
theorem eq_of_joinCells_eq_nil {d : UInt8} {cell : String} {record : Record}
    (h : joinCells d (cell :: record) = []) : cell :: record = [""] := by
  cases record with
  | nil =>
      rw [joinCells_cons, if_pos rfl, List.append_nil] at h
      have hcell : Utf8.encode cell = [] :=
        encode_eq_nil_of_spelledCell (spellsCell_printCell d cell) h
      rw [Utf8.encode_eq_nil_iff.1 hcell]
  | cons next record => simp [joinCells_cons] at h

/-- The line of a printed record. -/
def printedLine (d : UInt8) (record : Record) : SpelledLine where
  record := record.filled
  text := if (joinCells d record).isEmpty then [quote, quote] else joinCells d record
  ending := .lf

theorem spellsRecord_printedLine (d : UInt8) (record : Record) :
    SpellsRecord d (printedLine d record).record (printedLine d record).text := by
  have hquoted : SpellsRecord d [""] [quote, quote] := .cells (.one .quoted) fun _ => rfl
  cases record with
  | nil => exact hquoted
  | cons cell record =>
      by_cases hjoin : joinCells d (cell :: record) = []
      · rw [eq_of_joinCells_eq_nil hjoin]
        exact hquoted
      · have htext : (printedLine d (cell :: record)).text = joinCells d (cell :: record) := by
          simp [printedLine, hjoin]
        rw [htext]
        refine .cells (spellsCells_joinCells d cell record) fun hempty => absurd ?_ hjoin
        change cell :: record = [""] at hempty
        rw [hempty]
        rfl

theorem print_eq_flatMap (d : UInt8) (t : Table) :
    print d t = (t.map (printedLine d)).flatMap SpelledLine.bytes := by
  rw [List.flatMap_map]
  rfl

/-- **Behind a printed table the pass stands as at the beginning of a text.** -/
theorem run_print {d : UInt8} (hd : ProperDelimiter d) (t : Table) (rest : Bytes) :
    PassState.run d (.lineStart false) (print d t ++ rest)
      = t.filled.map Event.ofRecord ++ PassState.run d (.lineStart false) rest := by
  have hlines : ∀ line ∈ t.map (printedLine d), SpellsRecord d line.record line.text := by
    intro line hline
    obtain ⟨record, -, rfl⟩ := List.mem_map.1 hline
    exact spellsRecord_printedLine d record
  have hending : ∀ line ∈ t.map (printedLine d), line.ending = .lf := by
    intro line hline
    obtain ⟨record, -, rfl⟩ := List.mem_map.1 hline
    rfl
  have hchain : (t.map (printedLine d)).IsChain SpelledLine.MayPrecede :=
    (List.isChain_map _).2 (List.Pairwise.isChain (List.pairwise_of_forall fun _ _ h => by cases h))
  obtain ⟨returned, hreturned, hrun⟩ :=
    PassState.run_spelledLines hd hlines hchain false (by simp) rest
  have hfalse : returned = false := by
    rw [← Bool.not_eq_true]
    intro hr
    rcases hreturned hr with h | ⟨line, hline, hcr⟩
    · cases h
    · cases (hending line hline).symm.trans hcr
  rw [print_eq_flatMap, hrun, hfalse, Table.filled, List.map_map, List.map_map]
  rfl

theorem onePass_print {d : UInt8} (hd : ProperDelimiter d) (t : Table) :
    onePass d (print d t) = t.filled.map Event.ofRecord := by
  have h := run_print hd t []
  rwa [List.append_nil, PassState.run_nil, PassState.finish, Option.toList_none,
    List.append_nil] at h

/-! ### Where a mark stands in front -/

/-- **A table whose printed form begins with a byte order mark**: the first cell of the first record
begins with U+FEFF and is not quoted. -/
def HidesMark (d : UInt8) : Table → Prop
  | (cell :: _) :: _ => cell.toList.head? = some Utf8.markChar ∧
      ∀ b ∈ Utf8.encode cell, b ≠ d ∧ b ≠ quote ∧ b ≠ cr ∧ b ≠ lf
  | _ => False

instance decidableHidesMark (d : UInt8) : (t : Table) → Decidable (HidesMark d t)
  | [] => .isFalse id
  | [] :: _ => .isFalse id
  | (cell :: _) :: _ =>
      let _ : Decidable (∀ b ∈ Utf8.encode cell, b ≠ d ∧ b ≠ quote ∧ b ≠ cr ∧ b ≠ lf) :=
        List.decidableBAll _ _
      inferInstanceAs (Decidable (_ ∧ _))

theorem HidesMark.beginsWithMark {d : UInt8} {t : Table} (h : HidesMark d t) :
    t.BeginsWithMark := by
  match t, h with
  | (_ :: _) :: _, h => exact h.1

theorem head_printCell (d : UInt8) (cell : String) :
    ∀ b ∈ (printCell d (Utf8.encode cell)).head?, b.IsUTF8FirstByte := by
  intro b hb
  rw [printCell] at hb
  split at hb
  · obtain rfl : quote = b := by simpa [quoted] using hb
    decide
  · exact Utf8.isUTF8FirstByte_head_encode cell b hb

/-- Joined cells begin with the first byte of a character or with the delimiter. -/
theorem head_joinCells (d : UInt8) (record : Record) :
    ∀ b ∈ (joinCells d record).head?, b = d ∨ b.IsUTF8FirstByte := by
  intro b hb
  cases record with
  | nil => simp [joinCells] at hb
  | cons cell record =>
      rw [joinCells_cons] at hb
      cases hcell : printCell d (Utf8.encode cell) with
      | nil =>
          rw [hcell] at hb
          split at hb
          · simp at hb
          · exact Or.inl (by simpa using hb.symm)
      | cons c cs =>
          rw [hcell] at hb
          obtain rfl : c = b := by simpa using hb
          exact Or.inr (head_printCell d cell c (by rw [hcell]; rfl))

/-- Behind an empty first cell no mark begins: its second byte begins no character. -/
theorem not_mark_isPrefix_behindCell (d : UInt8) (record : Record) (rest : Bytes) :
    ¬ Utf8.mark <+: behindCell d record ++ rest := by
  intro h
  by_cases hrecord : record = []
  · rw [behindCell, if_pos hrecord] at h
    exact Utf8.not_mark_isPrefix_cons (by decide) rest h
  rw [behindCell, if_neg hrecord, List.append_assoc, List.cons_append] at h
  obtain ⟨hd, htail⟩ := List.cons_prefix_cons.1 h
  obtain ⟨more, hmore⟩ := htail
  have hhead : (joinCells d record ++ ([lf] ++ rest)).head? = some 0xBB := by
    rw [← hmore]
    rfl
  cases hjoin : joinCells d record with
  | nil =>
      rw [hjoin] at hhead
      cases hhead
  | cons b bs =>
      rw [hjoin] at hhead
      obtain rfl : b = 0xBB := by simpa using hhead
      rcases head_joinCells d record 0xBB (by rw [hjoin]; rfl) with hd' | hfirst
      · rw [← hd] at hd'
        cases hd'
      · exact absurd hfirst (by decide)

/-- **A printed table begins with a mark exactly if its first cell does**, so the mark never arises
from a delimiter and what stands around it. -/
theorem mark_isPrefix_print_iff (d : UInt8) (t : Table) :
    Utf8.mark <+: print d t ↔ HidesMark d t := by
  have hquote (bs : Bytes) : ¬ Utf8.mark <+: quote :: bs :=
    Utf8.not_mark_isPrefix_cons (by decide) bs
  cases t with
  | nil => exact iff_of_false (by simp [Utf8.mark]) id
  | cons record t =>
      rw [print_cons]
      cases record with
      | nil => exact iff_of_false (hquote _) id
      | cons cell record =>
          rw [HidesMark, ← needsQuotes_eq_false_iff, ← Utf8.mark_isPrefix_encode_iff]
          cases hq : needsQuotes d (Utf8.encode cell) with
          | true =>
              obtain ⟨bs, hjoin⟩ : ∃ bs, joinCells d (cell :: record) = quote :: bs := by
                rw [joinCells_cons, printCell, if_pos hq, quoted]
                exact ⟨_, rfl⟩
              rw [printRecord_of_ne_nil (by rw [hjoin]; exact List.cons_ne_nil quote bs), hjoin]
              exact iff_of_false (hquote _) (by simp)
          | false =>
              by_cases hempty : cell = "" ∧ record = []
              · rw [hempty.1, hempty.2, printRecord_of_eq_nil rfl]
                exact iff_of_false (hquote _) (by simp [Utf8.mark])
              have hne : cell ≠ "" ∨ record ≠ [] := by
                rwa [Classical.not_and_iff_not_or_not] at hempty
              rw [printRecord_of_bare hq hne, List.append_assoc, and_iff_left rfl]
              constructor
              · intro h
                rcases Utf8.mark_isPrefix_encode_append h with hmark | rfl
                · exact hmark
                · exact absurd h (not_mark_isPrefix_behindCell d record (print d t))
              · intro h
                exact h.trans (List.prefix_append ..)

/-! ### Reading a printed table -/

theorem cells_lines_print {d : UInt8} (hd : ProperDelimiter d) {t : Table}
    (h : ¬ HidesMark d t) : (lines d (print d t)).map Line.cells = t.filled.bytes := by
  rw [← mark_isPrefix_print_iff] at h
  rw [cells_lines d h, onePass_print hd, map_cells_ofRecord]

/-- A printed table without a mark in front is parsed as it was, up to records without cells. -/
theorem parse_print {d : UInt8} (hd : ProperDelimiter d) {t : Table} (h : ¬ HidesMark d t) :
    parse d (print d t) = .ok t.filled := by
  rw [parse_eq_ok_iff, Utf8.dropMark_of_not_isPrefix (mt (mark_isPrefix_print_iff d t).1 h),
    cells_lines_print hd h]

theorem blankLine_not_mem_ofRecord_filled (t : Table) :
    Event.blankLine ∉ t.filled.map Event.ofRecord := by
  intro h
  obtain ⟨record, hmem, hrecord⟩ := List.mem_map.1 h
  obtain ⟨original, -, rfl⟩ := List.mem_map.1 hmem
  cases original with
  | nil => cases hrecord
  | cons => cases hrecord

/-- A printed table begins with a record. -/
theorem fromRecord_print {d : UInt8} (hd : ProperDelimiter d) (t : Table) :
    fromRecord d (print d t) = t.filled.map Event.ofRecord := by
  have hrun := run_lineStart d (print d t)
  rw [← onePass, onePass_print hd] at hrun
  have hzero : countTerminators (print d t) = 0 := by
    by_contra hne
    refine blankLine_not_mem_ofRecord_filled t ?_
    rw [hrun]
    exact List.mem_append_left _ (List.mem_replicate.2 ⟨hne, rfl⟩)
  rw [hrun, hzero]
  rfl

theorem cells_lines_mark_print {d : UInt8} (hd : ProperDelimiter d) (t : Table) :
    (lines d (Utf8.mark ++ print d t)).map Line.cells = t.filled.bytes := by
  rw [cells_lines_mark_append, fromRecord_print hd, map_cells_ofRecord]

/-- What is left of a table when the mark in front of its printed form is taken away: the first cell
is shorter, and if nothing is left of it and it was alone, its line is empty. -/
theorem print_of_hidesMark {d : UInt8} {t : Table} (h : HidesMark d t) :
    ∃ cell record rest, t = (cell :: record) :: rest ∧
      (record = [] ∧ print d t = Utf8.mark ++ lf :: print d rest ∨
        ∃ tail : String, (Utf8.encode tail).length < (Utf8.encode cell).length ∧
          print d t = Utf8.mark ++ print d ((tail :: record) :: rest)) := by
  match t, h with
  | (cell :: record) :: rest, ⟨hhead, hbytes⟩ =>
      refine ⟨cell, record, rest, rfl, ?_⟩
      obtain ⟨tail, hcell⟩ := Utf8.exists_encode_eq_mark_append hhead
      have hbare : needsQuotes d (Utf8.encode cell) = false := needsQuotes_eq_false_iff.2 hbytes
      have htail : needsQuotes d (Utf8.encode tail) = false := by
        refine needsQuotes_eq_false_iff.2 fun b hb => hbytes b ?_
        rw [hcell]
        exact List.mem_append_right _ hb
      have hne : cell ≠ "" := by
        rintro rfl
        cases hcell
      have hlt : (Utf8.encode tail).length < (Utf8.encode cell).length := by
        rw [hcell, List.length_append]
        exact Nat.lt_add_of_pos_left (by decide)
      rw [print_cons, printRecord_of_bare hbare (Or.inl hne), hcell]
      by_cases hempty : tail = "" ∧ record = []
      · refine Or.inl ⟨hempty.2, ?_⟩
        rw [hempty.1, hempty.2]
        rfl
      · refine Or.inr ⟨tail, hcell ▸ hlt, ?_⟩
        rw [Classical.not_and_iff_not_or_not] at hempty
        rw [print_cons, printRecord_of_bare htail hempty]
        simp only [List.append_assoc]

theorem bytes_filled_ne_of_length_lt {cell tail : String} {record other : Record} {t u : Table}
    (h : (Utf8.encode tail).length < (Utf8.encode cell).length) :
    Table.bytes (Table.filled ((tail :: record) :: t))
      ≠ Table.bytes (Table.filled ((cell :: other) :: u)) := by
  intro heq
  have hcell : Utf8.encode tail = Utf8.encode cell := (List.cons.inj (List.cons.inj heq).1).1
  rw [hcell] at h
  exact Nat.lt_irrefl _ h

/-- A mark that is printed bare is lost, and the first cell or the first record with it. -/
theorem cells_lines_ne_of_hidesMark {d : UInt8} (hd : ProperDelimiter d) {t : Table}
    (h : HidesMark d t) :
    (lines d (Utf8.dropMark (print d t))).map Line.cells ≠ t.filled.bytes := by
  obtain ⟨cell, record, rest, rfl, hprint⟩ := print_of_hidesMark h
  rcases hprint with ⟨rfl, hprint⟩ | ⟨tail, hlt, hprint⟩
  · -- the first line is left empty
    have hmark : ¬ Utf8.mark <+: lf :: print d rest :=
      Utf8.not_mark_isPrefix_cons (by decide) (print d rest)
    rw [hprint, Utf8.dropMark_mark_append, cells_lines d hmark, onePass,
      PassState.run_lineStart_lf]
    intro heq
    cases (List.cons.inj heq).1
  · rw [hprint, Utf8.dropMark_mark_append]
    by_cases htail : HidesMark d ((tail :: record) :: rest)
    · -- a second mark is left out as well, and an empty line behind it
      obtain ⟨_, _, _, heq, hprint⟩ := print_of_hidesMark htail
      cases heq
      rcases hprint with ⟨rfl, hprint⟩ | ⟨shorter, hshorter, hprint⟩
      · have hlf : afterTerminator? (lf :: print d rest) = some (print d rest) := rfl
        rw [hprint, cells_lines_mark_append, fromRecord_of_afterTerminator? d hlf,
          fromRecord_print hd, map_cells_ofRecord]
        intro heq
        have hlength := congrArg List.length heq
        simp [Table.bytes, Table.filled] at hlength
      · rw [hprint, cells_lines_mark_print hd]
        exact bytes_filled_ne_of_length_lt (hshorter.trans hlt)
    · rw [cells_lines_print hd htail]
      exact bytes_filled_ne_of_length_lt hlt

/-- A table whose records all have cells is parsed as it was, unless a mark stands in front. -/
theorem parse_print_eq_ok_iff_of_forall_ne_nil {d : UInt8} (hd : ProperDelimiter d) {t : Table}
    (hne : ∀ record ∈ t, record ≠ []) : parse d (print d t) = .ok t ↔ ¬ HidesMark d t := by
  have hfilled : t.filled = t := Table.filled_of_forall_ne_nil hne
  constructor
  · intro hparse h
    refine cells_lines_ne_of_hidesMark hd h ?_
    rw [hfilled]
    exact (parse_eq_ok_iff d (print d t) t).1 hparse
  · intro h
    rw [parse_print hd h, hfilled]

/-- **A printed table is parsed as it was, up to records without cells, exactly if its first cell
does not begin with U+FEFF outside quotes.** -/
theorem parse_print_iff {d : UInt8} (hd : ProperDelimiter d) (t : Table) :
    parse d (print d t) = .ok t.filled ↔ ¬ HidesMark d t := by
  rw [parse_eq_ok_iff]
  constructor
  · intro hparse h
    exact cells_lines_ne_of_hidesMark hd h hparse
  · intro h
    have hmark : ¬ Utf8.mark <+: print d t := fun hmark => h ((mark_isPrefix_print_iff d t).1 hmark)
    rw [Utf8.dropMark_of_not_isPrefix hmark, cells_lines_print hd h]

/-- The delimiter is a byte of the cell's only character, so that the cell is quoted. -/
theorem parse_print_iff_high :
    ProperDelimiter 0xBB ∧ ¬ HidesMark 0xBB [["\uFEFF", "\"\r"], [], ["", "é\n"]] ∧
      parse 0xBB (print 0xBB [["\uFEFF", "\"\r"], [], ["", "é\n"]])
        = .ok [["\uFEFF", "\"\r"], [""], ["", "é\n"]] := by
  have hd : ProperDelimiter 0xBB := ⟨by decide, by decide, by decide⟩
  have hmark : ¬ HidesMark 0xBB [["\uFEFF", "\"\r"], [], ["", "é\n"]] := by decide
  exact ⟨hd, hmark, (parse_print_iff hd _).2 hmark⟩

end Delimited

end Tabular
